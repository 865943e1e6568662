import UploadProbe.CommandLine.Stop

/-!
# Reading the command line

Arguments are read from left to right. A value written apart from its flag waits until the next
known flag, or the end, makes it count; so a complaint about such a value comes after a complaint
about the argument behind it when that argument is unknown. Settings that no argument gives are then
looked up in the environment, in the order of `Setting.all`, and the others keep their defaults.
-/

namespace UploadProbe

namespace CommandLine

/-- What an argument looks like. -/
inductive Token where
  | separator
  /-- Two dashes and a name, perhaps with a value behind an equals sign. -/
  | long (name : Bytes) (attached : Option Bytes)
  | short (cluster : Bytes)
  | plain (raw : Bytes)
deriving DecidableEq, Repr

def dash : UInt8 := 0x2D

def equals : UInt8 := 0x3D

def cutAtEquals : Bytes → Bytes × Option Bytes
  | [] => ([], none)
  | b :: rest =>
    if b = equals then ([], some rest)
    else
      let (name, value) := cutAtEquals rest
      (b :: name, value)

def Token.ofBytes (raw : Bytes) : Token :=
  match raw with
  | first :: second :: rest =>
    if first = dash then
      if second = dash then
        if rest.isEmpty then .separator
        else
          let (name, attached) := cutAtEquals rest
          .long name attached
      else .short (second :: rest)
    else .plain raw
  | _ => .plain raw

structure Progress where
  settings : Settings := {}
  given : List Setting := []
  /-- A flag whose value is written apart, and that value once it is read. -/
  pending : Option (Setting × Option Bytes) := none

/-- The settings with one value replaced by a raw one. -/
def store (settings : Settings) (setting : Setting) (raw : Bytes) : Except Stop Settings :=
  match setting with
  | .file => if raw.isEmpty then .error (.missingValue .file) else .ok { settings with file := raw }
  | _ =>
    match Utf8.decode? raw with
    | none => .error .invalidUtf8
    | some text =>
      match setting with
      | .url => .ok { settings with url := text }
      | .field => .ok { settings with field := text }
      | .mime => .ok { settings with mime := text }
      | .timeout =>
        match Duration.read text with
        | .ok duration => .ok { settings with timeout := some duration }
        | .error error => .error (.invalidTimeout text error)
      | .file => .ok settings

namespace Progress

/-- Gives a setting its value, which no one may have done before. -/
def assign (progress : Progress) (setting : Setting) (raw : Bytes) : Except Stop Progress :=
  if setting ∈ progress.given then .error (.repeated setting)
  else
    match store progress.settings setting raw with
    | .ok settings =>
      .ok { settings, given := progress.given ++ [setting], pending := progress.pending }
    | .error stop => .error stop

def resolve (progress : Progress) : Except Stop Progress :=
  match progress.pending with
  | none => .ok progress
  | some (setting, none) => .error (.missingValue setting)
  | some (setting, some raw) => { progress with pending := none }.assign setting raw

/-- The settings that count as given when an unknown flag is met. A waiting value makes its setting
count even if it is no good, but no more the second time. -/
def givenAtUnknown (progress : Progress) : List Setting :=
  match progress.pending with
  | some (setting, some _) =>
    if setting ∈ progress.given then progress.given.filter (· ≠ setting)
    else progress.given ++ [setting]
  | _ => progress.given

/-- The complaint about an unknown flag behind two dashes. -/
def unknownLong (progress : Progress) (name : Bytes) : Stop :=
  let shown := Utf8.decodeLossy name
  let similar := Flag.mostSimilar? shown
  let used := progress.givenAtUnknown.map Flag.setting
  let used :=
    match similar with
    | some flag => if flag ∈ used then used else used ++ [flag]
    | none => used
  .unknownArgument ("--".toList ++ shown) similar used

end Progress

def unexpected (raw : Bytes) : Stop :=
  .unknownArgument (Utf8.decodeLossy raw) none []

/-- What letters behind one dash lead to; the first one decides. -/
def readShort (progress : Progress) (cluster : Bytes) : Stop :=
  match Utf8.scan none cluster with
  | some c :: _ =>
    match [Switch.help, Switch.version].find? (·.letter = c) with
    | some switch =>
      match progress.resolve with
      | .ok _ => switch.answer
      | .error stop => stop
    | none => .unknownArgument ['-', c] none []
  | _ => .unknownArgument ('-' :: Utf8.decodeLossy cluster) none []

/-- Reads what is left of the arguments behind two dashes alone. -/
def readAfterSeparator (progress : Progress) : List Bytes → Except Stop Progress
  | [] => progress.resolve
  | raw :: _ => .error (unexpected raw)

def readFrom (progress : Progress) : List Bytes → Except Stop Progress
  | [] => progress.resolve
  | raw :: rest =>
    match Token.ofBytes raw with
    | .separator => readAfterSeparator progress rest
    | .short cluster => .error (readShort progress cluster)
    | .plain raw =>
      match progress.pending with
      | some (setting, none) =>
        readFrom { progress with pending := some (setting, some raw) } rest
      | _ => .error (unexpected raw)
    | .long name attached =>
      match (Utf8.decode? name).bind Flag.ofName? with
      | none => .error (progress.unknownLong name)
      | some (.switch switch) =>
        match attached with
        | some value =>
          .error (.unneededValue switch (Utf8.decodeLossy value)
            (progress.given.map Flag.setting ++ [.switch switch]))
        | none =>
          match progress.resolve with
          | .ok _ => .error switch.answer
          | .error stop => .error stop
      | some (.setting setting) =>
        match progress.resolve with
        | .error stop => .error stop
        | .ok progress =>
          match attached with
          | some value =>
            match progress.assign setting value with
            | .ok progress => readFrom progress rest
            | .error stop => .error stop
          | none => readFrom { progress with pending := some (setting, none) } rest

/-- Gives settings that no argument gave their values from the environment. -/
def fillFrom (environment : Environment) (progress : Progress) :
    List Setting → Except Stop Progress
  | [] => .ok progress
  | setting :: rest =>
    if setting ∈ progress.given then fillFrom environment progress rest
    else
      match environment setting with
      | none => fillFrom environment progress rest
      | some raw =>
        match progress.assign setting raw with
        | .ok progress => fillFrom environment progress rest
        | .error stop => .error stop

/-- The settings of a command line and an environment, or the reason to stop. -/
def read (arguments : List Bytes) (environment : Environment) : Except Stop Settings :=
  match readFrom {} arguments with
  | .error stop => .error stop
  | .ok progress =>
    match fillFrom environment progress Setting.all with
    | .error stop => .error stop
    | .ok progress => .ok progress.settings

end CommandLine

end UploadProbe
