import UploadProbe.Http.Chunked
import UploadProbe.Http.ReplyHead

/-!
# Where a body ends

The head of a reply tells where its body ends: at once, after a number of octets, behind the last
chunk, or where the server closes the connection. A body whose end does not arrive is refused; it
is never taken for a shorter one.
-/

namespace UploadProbe

/-- What a server does with the connection once it has sent its octets. -/
inductive Ending where
  | closes
  | staysOpen
deriving DecidableEq, Repr

/-- How the end of a body is found. -/
inductive Framing where
  | length (octets : Nat)
  | chunked
  | untilClose
deriving DecidableEq, Repr

/-- Why a head does not tell where its body ends. -/
inductive FramingError where
  | contentLength
  | transferEncoding
  | tooLong
deriving DecidableEq, Repr

def FramingError.message : FramingError → Text
  | .contentLength => "invalid content-length parsed".toList
  | .transferEncoding => "unexpected transfer-encoding parsed".toList
  | .tooLong => HeadError.tooLarge.message

namespace Framing

def lengthName : Bytes := Bytes.ofAscii "content-length".toList

def codingsName : Bytes := Bytes.ofAscii "transfer-encoding".toList

def chunkedCoding : Bytes := Bytes.ofAscii "chunked".toList

def comma : UInt8 := 0x2C

/-- Whether a value consists of visible ASCII characters, blanks and tabs. -/
def isReadable (value : Bytes) : Bool :=
  value.all fun b => b = ReplyHead.tab || (0x20 ≤ b && b < 0x7F)

/-- The elements of a value that is a list, without blanks around them. -/
def elements (value : Bytes) : List Bytes :=
  (Bytes.splitOn comma value).map fun element =>
    ((element.dropWhile ReplyHead.isBlank).reverse.dropWhile ReplyHead.isBlank).reverse

/-- The words in which lengths are counted hold numbers below this one. -/
def wordLimit : Nat := Nat.pow 2 64

/-- The greatest length of a body. -/
def lengthLimit : Nat := wordLimit - 3

/-- Reads a number that fits a word. -/
def readLength? (digits : Bytes) : Option Nat :=
  if digits.isEmpty || !digits.all Bytes.isDigit then none
  else
    let value := digits.foldl (fun value b => value * 10 + (b.toNat - 0x30)) 0
    if value < wordLimit then some value else none

/-- The length that all elements of all values tell, if they agree. -/
def agreedLength? (values : List Bytes) : Option Nat :=
  if !values.all isReadable then none
  else
    match (values.flatMap elements).mapM readLength? with
    | some (count :: others) => if others.all (· = count) then some count else none
    | _ => none

/-- Whether the last coding of the last value is the one in chunks. -/
def endsInChunks (values : List Bytes) : Bool :=
  values.getLast?.any fun value =>
    isReadable value &&
      (elements value).getLast?.any fun coding => coding.map Bytes.lowerByte = chunkedCoding

/-- How the end of the body behind a head is found. -/
def ofHead (head : ReplyHead) : Except FramingError Framing :=
  if head.status = 101 || head.status = 204 || head.status = 304 then .ok (.length 0)
  else
    let codings := head.values codingsName
    let lengths := head.values lengthName
    if !codings.isEmpty then
      if head.minorVersion = 0 then .error .transferEncoding
      else if endsInChunks codings then .ok .chunked
      else .ok .untilClose
    else if lengths.isEmpty then .ok .untilClose
    else
      match agreedLength? lengths with
      | none => .error .contentLength
      | some count => if count ≤ lengthLimit then .ok (.length count) else .error .tooLong

end Framing

/-- Why there is no body. -/
inductive BodyError where
  | endsEarly
  /-- The connection was closed in front of, between or behind chunks. -/
  | endsBetweenChunks
  | chunk (error : Chunked.ChunkError)
  | timedOut
deriving DecidableEq, Repr

namespace Framing

/-- What it means that the octets of a body do not suffice. -/
def missing (ending : Ending) (whenClosed : BodyError) : BodyError :=
  match ending with
  | .closes => whenClosed
  | .staysOpen => .timedOut

/-- What the end of the connection means within a chunked body. -/
def endWithinChunks (reading : Chunked.Reading) : BodyError :=
  match reading.place with
  | .data _ => .endsEarly
  | _ => .endsBetweenChunks

/-- The body at the front of some octets, behind which the server ends in a certain way. -/
def readBody (framing : Framing) (octets : Bytes) (ending : Ending) : Except BodyError Bytes :=
  match framing with
  | .length count =>
    if count ≤ octets.length then .ok (octets.take count) else .error (missing ending .endsEarly)
  | .chunked =>
    match Chunked.read octets with
    | .complete body _ => .ok body
    | .partway reading => .error (missing ending (endWithinChunks reading))
    | .refused error => .error (.chunk error)
  | .untilClose =>
    match ending with
    | .closes => .ok octets
    | .staysOpen => .error .timedOut

/-- Whether octets are a whole reply or none at all, so that further octets cannot change what is
read. -/
def isSettled (raw : Bytes) : Bool :=
  match ReplyHead.read raw with
  | .partway _ => false
  | .refused _ => true
  | .complete head octets =>
    match ofHead head with
    | .error _ => true
    | .ok framing =>
      match framing.readBody octets .staysOpen with
      | .error .timedOut => false
      | _ => true

end Framing

end UploadProbe
