import UploadProbe.Text.Utf8

/-!
# Media types

A media type is a type and a subtype with a slash between them, perhaps followed by parameters
behind semicolons. It is read octet by octet, and the first octet that cannot continue it is named
with its position. What is kept is the text to announce: type, subtype and the names of parameters
in small letters, and the value of a charset as well.
-/

namespace UploadProbe

/-- Why a text is no media type. -/
inductive MediaTypeError where
  | missingSlash
  | missingEquals
  | missingQuote
  | invalidToken (position : Nat) (octet : UInt8)
deriving DecidableEq, Repr

namespace MediaTypeError

def capitalHex (number : Nat) : Text :=
  (Text.ofNatHex number).map Char.toUpper

def message : MediaTypeError → Text
  | .missingSlash => "a slash (/) was missing between the type and subtype".toList
  | .missingEquals => "an equals sign (=) was missing between a parameter and its value".toList
  | .missingQuote => "a quote (\") was missing from a parameter value".toList
  | .invalidToken position octet =>
    "an invalid token was encountered, ".toList ++ capitalHex octet.toNat ++
      " at position ".toList ++ Text.ofNat position

end MediaTypeError

/-- A parameter: where its name and its value lie, first octet and the one behind the last. -/
structure MediaParameter where
  nameStart : Nat
  nameEnd : Nat
  valueStart : Nat
  valueEnd : Nat
deriving DecidableEq, Repr

namespace MediaType

/-- The octets of names and of values that are not quoted. -/
def isToken (b : UInt8) : Bool :=
  (0x30 ≤ b && b ≤ 0x39) || (0x41 ≤ b && b ≤ 0x5A) || (0x61 ≤ b && b ≤ 0x7A) ||
    (Bytes.ofAscii "!#$%&'*+-.^_`|~".toList).contains b

def isQuoted (b : UInt8) : Bool :=
  31 < b && b ≠ 127

def equals : UInt8 := 0x3D

def semicolon : UInt8 := 0x3B

def quote : UInt8 := 0x22

def blank : UInt8 := 0x20

def slash : UInt8 := 0x2F

/-- Where a reader of parameters stands. -/
inductive Place where
  /-- In a name, or in front of one. -/
  | name (start : Nat)
  /-- In a value, or in front of one. -/
  | value (nameStart nameEnd start : Nat)
  | quotedValue (nameStart nameEnd start : Nat)
  | behindQuote
deriving DecidableEq, Repr

/-- Reads one octet of the parameters: the new place, and the parameter that has been completed. -/
def step (place : Place) (position : Nat) (b : UInt8) :
    Except MediaTypeError (Place × List MediaParameter) :=
  match place with
  | .name start =>
    if b = blank && position = start then .ok (.name (position + 1), [])
    else if isToken b then .ok (place, [])
    else if b = equals && start < position then .ok (.value start position (position + 1), [])
    else .error (.invalidToken position b)
  | .value nameStart nameEnd start =>
    if b = quote && position = start then .ok (.quotedValue nameStart nameEnd (position + 1), [])
    else if isToken b then .ok (place, [])
    else if b = semicolon && start < position then
      .ok (.name (position + 1), [⟨nameStart, nameEnd, start, position⟩])
    else .error (.invalidToken position b)
  | .quotedValue nameStart nameEnd start =>
    if b = quote && start < position then
      .ok (.behindQuote, [⟨nameStart, nameEnd, start, position⟩])
    else if isQuoted b then .ok (place, [])
    else .error (.invalidToken position b)
  | .behindQuote =>
    if b = semicolon then .ok (.name (position + 1), [])
    else if b = blank then .ok (place, [])
    else .error (.invalidToken position b)

/-- What the end of the text means at a place. -/
def finish (place : Place) (position : Nat) : Except MediaTypeError (List MediaParameter) :=
  match place with
  | .name start => if position ≤ start then .ok [] else .error .missingEquals
  | .value nameStart nameEnd start => .ok [⟨nameStart, nameEnd, start, position⟩]
  | .quotedValue _ _ _ => .error .missingQuote
  | .behindQuote => .ok []

/-- Reads the parameters from a position on. -/
def readParameters (place : Place) (position : Nat) :
    Bytes → Except MediaTypeError (List MediaParameter)
  | [] => finish place position
  | b :: rest =>
    match step place position b with
    | .error error => .error error
    | .ok (place, completed) =>
      match readParameters place (position + 1) rest with
      | .error error => .error error
      | .ok parameters => .ok (completed ++ parameters)

/-- Reads the subtype, which begins at `start`: the position of the semicolon behind it and what
follows, if there is one. -/
def readSubtype (start position : Nat) : Bytes → Except MediaTypeError (Option (Nat × Bytes))
  | [] => .ok none
  | b :: rest =>
    if b = semicolon && start < position then .ok (some (position, rest))
    else if isToken b then readSubtype start (position + 1) rest
    else .error (.invalidToken position b)

/-- Reads the type: the position behind the slash and what follows. -/
def readType (position : Nat) : Bytes → Except MediaTypeError (Nat × Bytes)
  | [] => .error .missingSlash
  | b :: rest =>
    if isToken b then readType (position + 1) rest
    else if b = slash && 0 < position then .ok (position + 1, rest)
    else .error (.invalidToken position b)

/-- Small letters within a stretch of octets. -/
def lowerWithin (start stop : Nat) (bytes : Bytes) : Bytes :=
  bytes.take start ++ ((bytes.take stop).drop start).map Bytes.lowerByte ++ bytes.drop stop

/-- The name of the parameter whose value is brought into small letters. -/
def charsetName : Bytes := Bytes.ofAscii "charset".toList

def lowerParameter (bytes : Bytes) (parameter : MediaParameter) : Bytes :=
  let bytes := lowerWithin parameter.nameStart parameter.nameEnd bytes
  if (bytes.take parameter.nameEnd).drop parameter.nameStart = charsetName then
    lowerWithin parameter.valueStart parameter.valueEnd bytes
  else bytes

structure Reading where
  announced : Bytes
  /-- The parameters, by where they lie in the announced octets. -/
  parameters : List MediaParameter

/-- Reads a media type. Without any parameter, the text from the semicolon on is left out. -/
def readBytes (bytes : Bytes) : Except MediaTypeError Reading := do
  let (start, behindSlash) ← readType 0 bytes
  match ← readSubtype start start behindSlash with
  | none => return ⟨bytes.map Bytes.lowerByte, []⟩
  | some (stop, behindSemicolon) =>
    let parameters ← readParameters (.name (stop + 1)) (stop + 1) behindSemicolon
    if parameters.isEmpty then return ⟨(bytes.take stop).map Bytes.lowerByte, []⟩
    else return ⟨parameters.foldl lowerParameter (lowerWithin 0 stop bytes), parameters⟩

/-- The octets to announce for a text that is a media type. -/
def read (text : Text) : Except MediaTypeError Bytes :=
  (readBytes (Utf8.encode text)).map (·.announced)

/-- The octets of the value of a parameter, the first of its name in any case. -/
def Reading.parameter? (reading : Reading) (name : Bytes) : Option Bytes :=
  let stretch (start stop : Nat) := (reading.announced.take stop).drop start
  (reading.parameters.find? fun parameter =>
    (stretch parameter.nameStart parameter.nameEnd).map Bytes.lowerByte = name).map
    fun parameter => stretch parameter.valueStart parameter.valueEnd

end MediaType

end UploadProbe
