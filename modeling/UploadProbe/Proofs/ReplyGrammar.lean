import Mathlib
import UploadProbe.Http.ReplyWriting

/-!
# Replies on the wire

A reply is a line with the version and the status, lines of fields and an empty line, perhaps behind
the heads of interim replies. The body behind it has the length that the head tells, or it comes in
chunks. Every part of a reply carries what makes it well-formed, so that whatever is built from the
parts is a reply.
-/

namespace UploadProbe

namespace ReplyHead

theorem isNameByte_ne {b : UInt8} (nameByte : isNameByte b = true) :
    b ≠ carriageReturn ∧ b ≠ lineFeed ∧ b ≠ colon := by
  refine ⟨?_, ?_, ?_⟩ <;> rintro rfl <;> exact absurd nameByte (by decide)

theorem isValueByte_ne {b : UInt8} (valueByte : isValueByte b = true) :
    b ≠ carriageReturn ∧ b ≠ lineFeed := by
  constructor <;> rintro rfl <;> exact absurd valueByte (by decide)

end ReplyHead

/-- The line of a field: any case in its name and any blanks around its value. -/
structure FieldLine where
  name : Bytes
  value : Bytes
  named : name ≠ []
  nameBytes : ∀ b ∈ name, ReplyHead.isNameByte b = true
  valueBytes : ∀ b ∈ value, ReplyHead.isValueByte b = true

namespace FieldLine

def octets (line : FieldLine) : Bytes :=
  line.name ++ ReplyHead.colon :: line.value ++ ReplyWriting.lineEnd

/-- Octets without the blanks at both ends. -/
def trim (value : Bytes) : Bytes :=
  ((value.dropWhile ReplyHead.isBlank).reverse.dropWhile ReplyHead.isBlank).reverse

/-- What the line tells. -/
def field (line : FieldLine) : ReplyField :=
  ⟨line.name.map Bytes.lowerByte, trim line.value⟩

end FieldLine

/-- The head of a reply, final or interim. -/
structure HeadLines where
  status : Nat
  /-- What stands behind the status and a blank, if the blank is there. -/
  reason : Option Bytes
  lines : List FieldLine
  least : 100 ≤ status
  greatest : status ≤ 999
  reasonBytes : ∀ b ∈ reason.getD [], ReplyHead.isValueByte b = true

/-- Whether some octets are the decimal digits of a number. -/
def IsNumeral (octets : Bytes) (number : Nat) : Prop :=
  octets ≠ [] ∧ (∀ b ∈ octets, Bytes.isDigit b = true) ∧
    octets.foldl (fun value b => value * 10 + (b.toNat - 0x30)) 0 = number

namespace HeadLines

def reasonOctets (head : HeadLines) : Bytes :=
  head.reason.elim [] (ReplyHead.blank :: ·)

def firstLine (head : HeadLines) : Bytes :=
  Bytes.ofAscii "HTTP/1.1 ".toList ++ (Bytes.ofAscii (Text.ofNat head.status) ++
    (head.reasonOctets ++ ReplyWriting.lineEnd))

def octets (head : HeadLines) : Bytes :=
  head.firstLine ++ (head.lines.flatMap FieldLine.octets ++ ReplyWriting.lineEnd)

/-- What the head tells. -/
def read (head : HeadLines) : ReplyHead :=
  ⟨1, head.status, head.lines.map FieldLine.field⟩

/-- Whether the head is one of a final reply that has a body. -/
def HasBody (head : HeadLines) : Prop :=
  200 ≤ head.status ∧ head.status ≠ 204 ∧ head.status ≠ 304

/-- Whether the head tells the length of the body, perhaps several times, and no coding. -/
def HasLength (head : HeadLines) (count : Nat) : Prop :=
  head.read.values Framing.codingsName = [] ∧ head.read.values Framing.lengthName ≠ [] ∧
    ∀ value ∈ head.read.values Framing.lengthName, IsNumeral value count

/-- Whether the last coding that the head names, perhaps behind others, is the one in chunks. -/
def IsChunked (head : HeadLines) : Prop :=
  ∃ earlier others coding,
    head.read.values Framing.codingsName = earlier ++ [others ++ coding] ∧
      coding.map Bytes.lowerByte = Framing.chunkedCoding ∧
      Framing.isReadable others = true ∧
      (others = [] ∨ ∃ codings blanks, others = codings ++ Framing.comma :: blanks ∧
        ∀ b ∈ blanks, ReplyHead.isBlank b = true)

end HeadLines

/-- What may stand behind the length of a chunk on its line. -/
def IsExtension (octets : Bytes) : Prop :=
  (octets = [] ∨ ∃ b rest, octets = b :: rest ∧ (b = 0x09 ∨ b = 0x20 ∨ b = 0x3B)) ∧
    ∀ b ∈ octets, b ≠ 0x0D ∧ b ≠ 0x0A

theorem isExtension_nil : IsExtension [] :=
  ⟨Or.inl rfl, by simp⟩

/-- The value of hexadecimal digits, in any case and with any zeros in front. -/
def hexadecimalValue (digits : Bytes) : Nat :=
  digits.foldl (fun value b => value * 16 + (Chunked.Reading.digitValue? b).getD 0) 0

/-- The line in front of a chunk. -/
structure SizeLine where
  digits : Bytes
  extension : Bytes
  sized : digits ≠ []
  hexadecimal : ∀ b ∈ digits, (Chunked.Reading.digitValue? b).isSome = true
  extended : IsExtension extension

namespace SizeLine

def size (line : SizeLine) : Nat :=
  hexadecimalValue line.digits

def octets (line : SizeLine) : Bytes :=
  line.digits ++ (line.extension ++ ReplyWriting.lineEnd)

end SizeLine

structure Chunk where
  line : SizeLine
  data : Bytes
  nonempty : data ≠ []
  measured : line.size = data.length

def Chunk.octets (chunk : Chunk) : Bytes :=
  chunk.line.octets ++ (chunk.data ++ ReplyWriting.lineEnd)

/-- A body in chunks: behind them one without data, trailing fields and an empty line. -/
structure ChunkedBody where
  chunks : List Chunk
  last : SizeLine
  empty : last.size = 0
  trailers : List FieldLine

namespace ChunkedBody

def data (body : ChunkedBody) : Bytes :=
  body.chunks.flatMap Chunk.data

/-- What stands behind the chunks. -/
def ending (body : ChunkedBody) : Bytes :=
  body.last.octets ++ (body.trailers.flatMap FieldLine.octets ++ ReplyWriting.lineEnd)

def octets (body : ChunkedBody) : Bytes :=
  body.chunks.flatMap Chunk.octets ++ body.ending

/-- Whether nothing stands behind the lengths of the chunks. -/
def IsPlain (body : ChunkedBody) : Prop :=
  (∀ chunk ∈ body.chunks, chunk.line.extension = []) ∧ body.last.extension = []

end ChunkedBody

/-- A reply that tells where its body ends: after a number of octets other than zero, or behind the
last chunk. -/
structure FramedReply where
  interims : List HeadLines
  head : HeadLines
  body : Bytes
  interim : ∀ interim ∈ interims, ReplyHead.Reading.isInterim interim.status = true
  bodied : head.HasBody
  framed : (head.HasLength body.length ∧ body ≠ []) ∨
    (head.IsChunked ∧ ∃ chunked : ChunkedBody, body = chunked.octets)

def FramedReply.octets (reply : FramedReply) : Bytes :=
  reply.interims.flatMap HeadLines.octets ++ (reply.head.octets ++ reply.body)

end UploadProbe
