import UploadProbe.Settings

/-!
# Flags

A flag on the command line either gives a setting its value or is a switch that asks for
information. Every setting can also be given by an environment variable.
-/

namespace UploadProbe

inductive Setting where
  | url
  | file
  | field
  | mime
  | timeout
deriving DecidableEq, Repr

namespace Setting

/-- All settings in the order in which they are explained and filled in. -/
def all : List Setting :=
  [.url, .file, .field, .mime, .timeout]

def name : Setting → Text
  | .url => "url".toList
  | .file => "file".toList
  | .field => "field".toList
  | .mime => "mime".toList
  | .timeout => "timeout".toList

/-- The word that stands for the value in explanations. -/
def placeholder : Setting → Text
  | .url => "<URL>".toList
  | .file => "<FILE>".toList
  | .field => "<FIELD>".toList
  | .mime => "<MIME>".toList
  | .timeout => "<TIMEOUT>".toList

/-- The environment variable that gives the setting. -/
def variableName : Setting → Text
  | .url => "SUBMIT_URL".toList
  | .file => "SUBMIT_FILE".toList
  | .field => "SUBMIT_FIELD".toList
  | .mime => "SUBMIT_MIME".toList
  | .timeout => "SUBMIT_TIMEOUT".toList

def purpose : Setting → Text
  | .url => "Endpoint receiving the multipart upload".toList
  | .file => "File sent as the upload body".toList
  | .field => "Multipart field name carrying the file".toList
  | .mime => "Content type declared for the file part".toList
  | .timeout => "Request timeout in seconds. Unset keeps the HTTP client's default".toList

def defaultText? : Setting → Option Text
  | .url => some ({} : Settings).url
  | .file => some ({} : Settings).file.shown
  | .field => some ({} : Settings).field
  | .mime => some ({} : Settings).mime
  | .timeout => none

end Setting

/-- A flag that asks for information. -/
inductive Switch where
  | help
  | version
deriving DecidableEq, Repr

namespace Switch

def name : Switch → Text
  | .help => "help".toList
  | .version => "version".toList

def letter : Switch → Char
  | .help => 'h'
  | .version => 'V'

end Switch

/-- Anything that may stand behind two dashes. -/
inductive Flag where
  | setting (setting : Setting)
  | switch (switch : Switch)
deriving DecidableEq, Repr

namespace Flag

/-- All flags in the order in which they are explained. -/
def all : List Flag :=
  Setting.all.map .setting ++ [.switch .help, .switch .version]

def name : Flag → Text
  | .setting named => named.name
  | .switch named => named.name

def ofName? (name : Text) : Option Flag :=
  all.find? (·.name = name)

def dashed (flag : Flag) : Text :=
  "--".toList ++ flag.name

/-- The flag as it stands in a usage line, with the place of its value. -/
def shown : Flag → Text
  | .setting named => (Flag.setting named).dashed ++ ' ' :: named.placeholder
  | .switch named => (Flag.switch named).dashed

end Flag

end UploadProbe
