import UploadProbe.CommandLine.Similarity
import UploadProbe.Text.Terminal

/-!
# Why no upload is made

Reading the command line either gives settings or stops: because information is asked for, or
because something is wrong. This module holds the reasons and the text printed for each. Text that
the user wrote is quoted without its terminal sequences.
-/

namespace UploadProbe

/-- The values of the environment variables that give settings. -/
abbrev Environment := Setting → Option Bytes

/-- The environment of a process whose variables have these values: each setting is read from the
variable with its name. -/
def Environment.ofVariables (valueOf : Text → Option Bytes) : Environment :=
  fun setting => valueOf setting.variableName

/-- A reason to stop before any upload. -/
inductive Stop where
  | help
  | version
  /-- An argument that is no flag, or a flag that does not exist. -/
  | unknownArgument (shown : Text) (similar : Option Flag) (used : List Flag)
  | unneededValue (switch : Switch) (value : Text) (used : List Flag)
  | missingValue (setting : Setting)
  | repeated (setting : Setting)
  | invalidUtf8
  | invalidTimeout (raw : Text) (error : TimeoutError)
deriving DecidableEq, Repr

def Switch.answer : Switch → Stop
  | .help => .help
  | .version => .version

namespace Stop

def programName : Text := "submit-probe".toList

def programVersion : Text := "0.1.0".toList

def programPurpose : Text :=
  "Upload a sample file to the orchestrator and print the reply".toList

/-- The usage line for the flags in use; without any, all flags are summed up. -/
def usage (used : List Flag) : Text :=
  "Usage: ".toList ++ programName ++ " ".toList ++
    if used.isEmpty then "[OPTIONS]".toList
    else Text.joinWith " ".toList (used.map Flag.shown)

/-- The blanks in front of every line of an explanation but its first. -/
def explanationIndent : Text := List.replicate 27 ' '

/-- The width that a flag takes before its explanation. -/
def flagWidth : Nat := 21

def indentLines (text : Text) : Text :=
  text.flatMap fun c => if c = '\n' then '\n' :: explanationIndent else [c]

/-- The variable that gives a setting, with its present value. -/
def variableNote (environment : Environment) (setting : Setting) : Text :=
  " [env: ".toList ++ setting.variableName ++ "=".toList ++
    Utf8.decodeLossy ((environment setting).getD []) ++ "]".toList

/-- The value that a setting has when nobody gives one. -/
def defaultNote (setting : Setting) : Text :=
  match setting.defaultText? with
  | some text => " [default: ".toList ++ text ++ "]".toList
  | none => []

def pad (width : Nat) (text : Text) : Text :=
  text ++ List.replicate (width - text.length) ' '

/-- The lines of a setting, up to and with the indent of what follows. -/
def settingLines (environment : Environment) (setting : Setting) : Text :=
  let name := (Flag.setting setting).dashed
  let explanation :=
    setting.purpose ++ variableNote environment setting ++ defaultNote setting
  let following := if setting = .timeout then "\n  ".toList else "\n      ".toList
  name ++ Terminal.plain
    (pad (flagWidth - name.length) (' ' :: setting.placeholder) ++ indentLines explanation ++
      following)

def helpText (environment : Environment) : Text :=
  programPurpose ++ "\n\n".toList ++ usage [] ++ "\n\nOptions:\n      ".toList ++
    Setting.all.flatMap (settingLines environment) ++
    "-h, --help               Print help\n".toList ++
    "  -V, --version            Print version\n".toList

def versionText : Text :=
  programName ++ " ".toList ++ programVersion ++ "\n".toList

def helpHint : Text := "\n\nFor more information, try '--help'.\n".toList

/-- The usage line of a complaint that has one. -/
def usageBlock (used : List Flag) : Text :=
  "\n\n".toList ++ usage used

/-- The flag that was probably meant. -/
def suggestion : Option Flag → Text
  | some flag => "\n\n  tip: a similar argument exists: '".toList ++ flag.dashed ++ "'".toList
  | none => []

def render (environment : Environment) : Stop → Text
  | .help => helpText environment
  | .version => versionText
  | .unknownArgument shown similar used =>
    "error: unexpected argument '".toList ++ Terminal.plain shown ++ "' found".toList ++
      suggestion similar ++ usageBlock used ++ helpHint
  | .unneededValue switch value used =>
    "error: unexpected value '".toList ++ Terminal.plain value ++ "' for '".toList ++
      (Flag.switch switch).dashed ++ "' found; no more were expected".toList ++ usageBlock used ++
      helpHint
  | .missingValue setting =>
    "error: a value is required for '".toList ++ (Flag.setting setting).shown ++
      "' but none was supplied".toList ++ helpHint
  | .repeated setting =>
    "error: the argument '".toList ++ (Flag.setting setting).shown ++
      "' cannot be used multiple times".toList ++ usageBlock [] ++ helpHint
  | .invalidUtf8 =>
    "error: invalid UTF-8 was detected in one or more arguments".toList ++ usageBlock [] ++ helpHint
  | .invalidTimeout raw error =>
    "error: invalid value '".toList ++ Terminal.plain raw ++ "' for '".toList ++
      (Flag.setting .timeout).shown ++
      Terminal.plain ("': ".toList ++ error.message ++ helpHint)

/-- Whether the text answers a question, and so is no complaint. -/
def isAnswer : Stop → Bool
  | .help | .version => true
  | _ => false

/-- The exit code: zero for an answer and two for a complaint. -/
def exitCode (stop : Stop) : Nat :=
  if stop.isAnswer then 0 else 2

end Stop

end UploadProbe
