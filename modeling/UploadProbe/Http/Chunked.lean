import UploadProbe.Http.Scan

/-!
# Chunked bodies

A chunked body is a series of chunks, each with its length in hexadecimal digits on a line in front
of it and an empty line's end behind it. A chunk without data is the last; trailing fields, which
nobody reads, and an empty line follow it. What stands behind a length on its line is passed over as
well.
-/

namespace UploadProbe.Chunked

/-- Why octets are no chunked body. -/
inductive ChunkError where
  | missingSize
  | size
  | sizeOverflow
  | blankBehindSize
  | extensionFeed
  | extensionsOverLimit
  | sizeFeed
  | dataReturn
  | dataFeed
  | trailerFeed
  | endFeed
deriving DecidableEq, Repr

def ChunkError.message : ChunkError → Text
  | .missingSize => "Invalid chunk size line: missing size digit".toList
  | .size => "Invalid chunk size line: Invalid Size".toList
  | .sizeOverflow => "invalid chunk size: overflow".toList
  | .blankBehindSize => "Invalid chunk size linear white space".toList
  | .extensionFeed => "invalid chunk extension contains newline".toList
  | .extensionsOverLimit => "chunk extensions over limit".toList
  | .sizeFeed => "Invalid chunk size LF".toList
  | .dataReturn => "Invalid chunk body CR".toList
  | .dataFeed => "Invalid chunk body LF".toList
  | .trailerFeed => "Invalid trailer end LF".toList
  | .endFeed => "Invalid chunk end LF".toList

/-- Where in a chunked body the reader is. -/
inductive Place where
  | start
  | size (value : Nat)
  | sizeBlank (value : Nat)
  | extension (value : Nat)
  | sizeReturn (value : Nat)
  /-- In the data of a chunk, of which so many octets are left. -/
  | data (left : Nat)
  | behindData
  | dataReturn
  | trailer
  | trailerReturn
  /-- At the beginning of a line behind the last chunk. -/
  | lineStart
  | lastReturn
deriving DecidableEq, Repr

/-- A chunked body that is being read. -/
structure Reading where
  place : Place
  /-- The data so far, the last octet first. -/
  collected : Bytes
  /-- How many octets have been passed over behind lengths. -/
  passedOver : Nat
deriving DecidableEq, Repr

namespace Reading

def fresh : Reading := ⟨.start, [], 0⟩

def moveTo (reading : Reading) (place : Place) : ScanStep Reading ChunkError Bytes :=
  .next { reading with place }

/-- Lengths are counted in words that hold numbers below this one. -/
def sizeLimit : Nat := Nat.pow 2 64

/-- The number of octets behind lengths at which a body is refused. -/
def extensionLimit : Nat := 16384

def digitValue? (b : UInt8) : Option Nat :=
  Text.hexDigit? (Char.ofNat b.toNat)

/-- A length with one more digit. -/
def withDigit (reading : Reading) (value digit : Nat) : ScanStep Reading ChunkError Bytes :=
  if sizeLimit ≤ value * 16 + digit then .fail .sizeOverflow
  else reading.moveTo (.size (value * 16 + digit))

/-- Reads an octet on the line of a length, behind at least one digit. -/
def stepSizeLine (reading : Reading) (value : Nat) (b : UInt8) (error : ChunkError) :
    ScanStep Reading ChunkError Bytes :=
  if b = 0x09 || b = 0x20 then reading.moveTo (.sizeBlank value)
  else if b = 0x3B then reading.moveTo (.extension value)
  else if b = 0x0D then reading.moveTo (.sizeReturn value)
  else .fail error

def step (reading : Reading) (b : UInt8) : ScanStep Reading ChunkError Bytes :=
  match reading.place with
  | .start =>
    match digitValue? b with
    | some digit => reading.withDigit 0 digit
    | none => .fail .missingSize
  | .size value =>
    match digitValue? b with
    | some digit => reading.withDigit value digit
    | none => reading.stepSizeLine value b .size
  | .sizeBlank value => reading.stepSizeLine value b .blankBehindSize
  | .extension value =>
    if b = 0x0D then reading.moveTo (.sizeReturn value)
    else if b = 0x0A then .fail .extensionFeed
    else if extensionLimit ≤ reading.passedOver + 1 then .fail .extensionsOverLimit
    else .next { reading with passedOver := reading.passedOver + 1 }
  | .sizeReturn value =>
    if b ≠ 0x0A then .fail .sizeFeed
    else if value = 0 then reading.moveTo .lineStart
    else reading.moveTo (.data value)
  | .data left =>
    .next { reading with
      place := if left ≤ 1 then .behindData else .data (left - 1)
      collected := b :: reading.collected }
  | .behindData => if b = 0x0D then reading.moveTo .dataReturn else .fail .dataReturn
  | .dataReturn => if b = 0x0A then reading.moveTo .start else .fail .dataFeed
  | .trailer => reading.moveTo (if b = 0x0D then .trailerReturn else .trailer)
  | .trailerReturn => if b = 0x0A then reading.moveTo .lineStart else .fail .trailerFeed
  | .lineStart => reading.moveTo (if b = 0x0D then .lastReturn else .trailer)
  | .lastReturn => if b = 0x0A then .done reading.collected.reverse else .fail .endFeed

end Reading

/-- Reads a chunked body off the front. -/
def read (octets : Bytes) : Scanned Reading ChunkError Bytes :=
  scan Reading.step Reading.fresh octets

end UploadProbe.Chunked
