import UploadProbe.Http.Scan

/-!
# The head of a reply

The head of a reply is a line with the version and the status, perhaps followed by a reason, and
the lines of its fields, up to an empty line. Lines may end without a carriage return, and empty
lines may come first. The head of an interim reply is passed over, unless it announces a change of
protocol.
-/

namespace UploadProbe

/-- A field of a reply: its name in small letters and its value. -/
structure ReplyField where
  name : Bytes
  value : Bytes
deriving DecidableEq, Repr

/-- The head of a final reply. -/
structure ReplyHead where
  /-- The number behind the point of the version: 0 or 1. -/
  minorVersion : Nat
  status : Nat
  /-- The fields in the order in which they came. -/
  fields : List ReplyField
deriving DecidableEq, Repr

/-- Why octets are not the head of a reply. -/
inductive HeadError where
  | version
  | status
  | field
  | tooLarge
deriving DecidableEq, Repr

def HeadError.message : HeadError → Text
  | .version => "invalid HTTP version parsed".toList
  | .status => "invalid HTTP status-code parsed".toList
  | .field => "invalid HTTP header parsed".toList
  | .tooLarge => "message head is too large".toList

namespace ReplyHead

/-- The values of all fields of a name, in order. -/
def values (head : ReplyHead) (name : Bytes) : List Bytes :=
  (head.fields.filter (·.name = name)).map (·.value)

def carriageReturn : UInt8 := 0x0D

def lineFeed : UInt8 := 0x0A

def blank : UInt8 := 0x20

def tab : UInt8 := 0x09

def colon : UInt8 := 0x3A

def isNameByte (b : UInt8) : Bool :=
  (0x30 ≤ b && b ≤ 0x39) || (0x41 ≤ b && b ≤ 0x5A) || (0x61 ≤ b && b ≤ 0x7A) ||
    (Bytes.ofAscii "!#$%&'*+-.^_`|~".toList).contains b

def isValueByte (b : UInt8) : Bool :=
  b = tab || (0x20 ≤ b && b ≠ 0x7F)

def isBlank (b : UInt8) : Bool :=
  b = blank || b = tab

def versionStart : Bytes := Bytes.ofAscii "HTTP/1.".toList

def fieldLimit : Nat := 100

/-- The length that a field name stays below. -/
def nameLimit : Nat := 65536

/-- The number of octets within which a head has to end. -/
def sizeLimit : Nat := 417792

/-- Where in a head the reader is. -/
inductive Place where
  /-- At the beginning of a line in front of the head. -/
  | front
  /-- Behind a carriage return in front of the head. -/
  | frontReturn
  /-- In the version, of which so many octets have been read. -/
  | version (matched : Nat)
  | behindVersion
  /-- In the status, of which so many digits have been read. -/
  | status (digits : Nat)
  | behindStatus
  | reason
  | firstReturn
  | lineStart
  | lastReturn
  /-- In a field name, the last octet first. -/
  | name (read : Bytes)
  | gap (name : Bytes)
  /-- In the value of a field, the last octet first. -/
  | value (name read : Bytes)
  /-- Behind the carriage return at the end of a value. -/
  | valueReturn (name read : Bytes)
deriving DecidableEq, Repr

/-- A head that is being read. -/
structure Reading where
  place : Place
  minorVersion : Nat
  status : Nat
  /-- The fields that have been read, the last one first. -/
  fields : List ReplyField
  size : Nat
deriving DecidableEq, Repr

namespace Reading

def fresh : Reading := ⟨.front, 0, 0, [], 0⟩

def moveTo (reading : Reading) (place : Place) : ScanStep Reading HeadError ReplyHead :=
  .next { reading with place }

/-- The reading with one more field, whose octets are given last one first. -/
def withField (reading : Reading) (name value : Bytes) :
    ScanStep Reading HeadError ReplyHead :=
  let trimmed := (value.dropWhile isBlank).reverse
  .next { reading with
    place := .lineStart
    fields := ⟨name.reverse.map Bytes.lowerByte, trimmed⟩ :: reading.fields }

/-- The statuses of interim replies, after which the reply itself is still to come. -/
def isInterim (status : Nat) : Bool :=
  100 ≤ status && status < 200 && status ≠ 101

/-- What the end of a head means. -/
def finish (reading : Reading) : ScanStep Reading HeadError ReplyHead :=
  if reading.status < 100 then .fail .status
  else if reading.fields.any (nameLimit ≤ ·.name.length) then .fail .tooLarge
  else if isInterim reading.status then .next fresh
  else .done ⟨reading.minorVersion, reading.status, reading.fields.reverse⟩

def stepLineStart (reading : Reading) (b : UInt8) : ScanStep Reading HeadError ReplyHead :=
  if b = carriageReturn then reading.moveTo .lastReturn
  else if b = lineFeed then reading.finish
  else if !isNameByte b then .fail .field
  else if fieldLimit ≤ reading.fields.length then .fail .tooLarge
  else reading.moveTo (.name [b])

def stepFirstLine (reading : Reading) (b : UInt8) : ScanStep Reading HeadError ReplyHead :=
  match reading.place with
  | .version matched =>
    if h : matched < versionStart.length then
      if b = versionStart[matched] then reading.moveTo (.version (matched + 1)) else .fail .version
    else if b = 0x30 then { reading with minorVersion := 0 }.moveTo .behindVersion
    else if b = 0x31 then { reading with minorVersion := 1 }.moveTo .behindVersion
    else .fail .version
  | .behindVersion => if b = blank then reading.moveTo (.status 0) else .fail .version
  | .status digits =>
    if !Bytes.isDigit b then .fail .status
    else
      { reading with status := reading.status * 10 + (b.toNat - 0x30) }.moveTo
        (if digits = 2 then .behindStatus else .status (digits + 1))
  | .behindStatus =>
    if b = blank then reading.moveTo .reason
    else if b = carriageReturn then reading.moveTo .firstReturn
    else if b = lineFeed then reading.moveTo .lineStart
    else .fail .status
  | .reason =>
    if b = carriageReturn then reading.moveTo .firstReturn
    else if b = lineFeed then reading.moveTo .lineStart
    else if isValueByte b then reading.moveTo .reason
    else .fail .status
  | _ => if b = lineFeed then reading.moveTo .lineStart else .fail .status

def stepField (reading : Reading) (b : UInt8) : ScanStep Reading HeadError ReplyHead :=
  match reading.place with
  | .name read =>
    if b = colon then reading.moveTo (.gap read)
    else if isNameByte b then reading.moveTo (.name (b :: read))
    else .fail .field
  | .gap name =>
    if isBlank b then reading.moveTo (.gap name)
    else if b = carriageReturn then reading.moveTo (.valueReturn name [])
    else if b = lineFeed then reading.withField name []
    else if isValueByte b then reading.moveTo (.value name [b])
    else .fail .field
  | .value name read =>
    if b = carriageReturn then reading.moveTo (.valueReturn name read)
    else if b = lineFeed then reading.withField name read
    else if isValueByte b then reading.moveTo (.value name (b :: read))
    else .fail .field
  | .valueReturn name read =>
    if b = lineFeed then reading.withField name read else .fail .field
  | _ => .fail .field

def stepAt (reading : Reading) (b : UInt8) : ScanStep Reading HeadError ReplyHead :=
  match reading.place with
  | .front =>
    if b = carriageReturn then reading.moveTo .frontReturn
    else if b = lineFeed then reading.moveTo .front
    else { reading with place := .version 0 }.stepFirstLine b
  | .frontReturn => if b = lineFeed then reading.moveTo .front else .fail .field
  | .version _ => reading.stepFirstLine b
  | .behindVersion => reading.stepFirstLine b
  | .status _ => reading.stepFirstLine b
  | .behindStatus => reading.stepFirstLine b
  | .reason => reading.stepFirstLine b
  | .firstReturn => reading.stepFirstLine b
  | .lineStart => reading.stepLineStart b
  | .lastReturn => if b = lineFeed then reading.finish else .fail .field
  | .name _ => reading.stepField b
  | .gap _ => reading.stepField b
  | .value _ _ => reading.stepField b
  | .valueReturn _ _ => reading.stepField b

/-- Reads an octet; a head that has used up all octets it may have is too large. -/
def step (reading : Reading) (b : UInt8) : ScanStep Reading HeadError ReplyHead :=
  match { reading with size := reading.size + 1 }.stepAt b with
  | .next reading => if sizeLimit ≤ reading.size then .fail .tooLarge else .next reading
  | .done head => .done head
  | .fail error => .fail error

end Reading

/-- Reads the head of the final reply off the front. -/
def read (octets : Bytes) : Scanned Reading HeadError ReplyHead :=
  scan Reading.step Reading.fresh octets

end ReplyHead

end UploadProbe
