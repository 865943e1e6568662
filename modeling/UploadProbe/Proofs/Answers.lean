import Mathlib
import UploadProbe.Proofs.ChunkReading
import UploadProbe.Proofs.FramingReading
import UploadProbe.Proofs.HeadReading
import UploadProbe.Proofs.Utf8
import UploadProbe.Upload.Exchange

/-!
# Answers, however they are sent

An answer is a status, some fields and a body. A server tells the length of the body in the head,
sends the body in chunks, or tells nothing and closes the connection behind it. The client reads the
same of all three, and it reports that, whatever the status and the body are. A body that is UTF-8
is reported as it is, unless another charset is declared.
-/

namespace UploadProbe

namespace FieldLine

def valuesOf (name : Bytes) (lines : List FieldLine) : List Bytes :=
  ((lines.map field).filter (·.name = name)).map (·.value)

variable {name : Bytes}

theorem valuesOf_append (name : Bytes) (left right : List FieldLine) :
    valuesOf name (left ++ right) = valuesOf name left ++ valuesOf name right := by
  simp only [valuesOf, List.map_append, List.filter_append]

theorem valuesOf_eq_nil {lines : List FieldLine} (others : ∀ line ∈ lines, line.field.name ≠ name) :
    valuesOf name lines = [] := by
  have none : (lines.map field).filter (·.name = name) = [] := by
    rw [List.filter_eq_nil_iff]
    intro found member
    rcases List.mem_map.mp member with ⟨line, inside, rfl⟩
    simpa using others line inside
  rw [valuesOf, none, List.map_nil]

theorem valuesOf_singleton {line : FieldLine} (named : line.field.name = name) :
    valuesOf name [line] = [line.field.value] := by
  simp [valuesOf, named]

end FieldLine

/-- What a server answers to a form, however it sends it. -/
structure Answer where
  status : Nat
  fields : List FieldLine
  body : Bytes
  least : 200 ≤ status
  greatest : status ≤ 999
  bodied : status ≠ 204 ∧ status ≠ 304
  /-- No field tells where the body ends. -/
  unframed : ∀ line ∈ fields,
    line.field.name ≠ Framing.lengthName ∧ line.field.name ≠ Framing.codingsName
  countable : body.length ≤ Framing.lengthLimit

namespace Answer

variable (answer : Answer)

def contentType? : Option Bytes :=
  (FieldLine.valuesOf Response.contentTypeName answer.fields).head?

/-- What the client reports. -/
def submission [MultibyteDecoding] : Submission :=
  ⟨answer.status, Charset.bodyText answer.contentType? answer.body⟩

/-- Whether a head tells an answer, with some lines about the end of the body among the others. -/
structure IsHead (framing : List FieldLine) (head : HeadLines) : Prop where
  status : head.status = answer.status
  lines : ∃ front behind, answer.fields = front ++ behind ∧
    head.lines = front ++ (framing ++ behind)
  fits : head.Fits

/-- Whether a reply sends an answer: with its length, in chunks without anything beside the data,
or up to the end of the connection. -/
inductive SentAs : Reply → Prop where
  | withLength {head : HeadLines} {line : FieldLine} (ending : Ending)
      (isHead : answer.IsHead [line] head) (named : line.field.name = Framing.lengthName)
      (told : IsNumeral line.field.value answer.body.length) :
      SentAs ⟨head.octets ++ answer.body, ending⟩
  | inChunks {head : HeadLines} {line : FieldLine} {chunked : ChunkedBody} (ending : Ending)
      (isHead : answer.IsHead [line] head) (named : line.field.name = Framing.codingsName)
      (told : line.field.value.map Bytes.lowerByte = Framing.chunkedCoding)
      (plain : chunked.IsPlain) (untrailed : chunked.trailers = [])
      (data : chunked.data = answer.body) :
      SentAs ⟨head.octets ++ chunked.octets, ending⟩
  | untilClose {head : HeadLines} (isHead : answer.IsHead [] head) :
      SentAs ⟨head.octets ++ answer.body, .closes⟩

variable {answer : Answer} {framing : List FieldLine} {head : HeadLines}

namespace IsHead

theorem hasBody (isHead : answer.IsHead framing head) : head.HasBody := by
  rw [HeadLines.HasBody, isHead.status]
  exact ⟨answer.least, answer.bodied⟩

theorem read (isHead : answer.IsHead framing head) (rest : Bytes) :
    ReplyHead.read (head.octets ++ rest) = .complete head.read rest := by
  have final : ReplyHead.Reading.isInterim head.status = false := by
    have least := answer.least
    simp [ReplyHead.Reading.isInterim, isHead.status]
    omega
  rw [ReplyHead.read, HeadLines.scan_octets, if_pos isHead.fits, final]
  rfl

/-- The values of fields that are not about the end of the body are those of the answer. -/
theorem values_of_others (isHead : answer.IsHead framing head) {name : Bytes}
    (others : ∀ line ∈ framing, line.field.name ≠ name) :
    head.read.values name = FieldLine.valuesOf name answer.fields := by
  rcases isHead.lines with ⟨front, behind, fields, lines⟩
  rw [show head.read.values name = FieldLine.valuesOf name head.lines from rfl, lines, fields]
  simp only [FieldLine.valuesOf_append, FieldLine.valuesOf_eq_nil others, List.nil_append]

theorem values_of_framing (isHead : answer.IsHead framing head) {name : Bytes}
    (absent : ∀ line ∈ answer.fields, line.field.name ≠ name) :
    head.read.values name = FieldLine.valuesOf name framing := by
  rcases isHead.lines with ⟨front, behind, fields, lines⟩
  rw [fields] at absent
  have inFront : ∀ line ∈ front, line.field.name ≠ name :=
    fun line member => absent line (List.mem_append_left behind member)
  have isBehind : ∀ line ∈ behind, line.field.name ≠ name :=
    fun line member => absent line (List.mem_append_right front member)
  rw [show head.read.values name = FieldLine.valuesOf name head.lines from rfl, lines]
  simp only [FieldLine.valuesOf_append, FieldLine.valuesOf_eq_nil inFront,
    FieldLine.valuesOf_eq_nil isBehind, List.nil_append, List.append_nil]

theorem values_length (isHead : answer.IsHead framing head) :
    head.read.values Framing.lengthName = FieldLine.valuesOf Framing.lengthName framing :=
  isHead.values_of_framing fun line member => (answer.unframed line member).1

theorem values_codings (isHead : answer.IsHead framing head) :
    head.read.values Framing.codingsName = FieldLine.valuesOf Framing.codingsName framing :=
  isHead.values_of_framing fun line member => (answer.unframed line member).2

end IsHead

variable [MultibyteDecoding]

/-- Whether the client reads an answer in a reply, and nothing else. -/
def ReadIn (answer : Answer) (reply : Reply) : Prop :=
  ∃ response, (∀ url, Response.ofReply url reply = .ok response) ∧
    response.head.status = answer.status ∧ response.submission = .ok answer.submission

/-- An answer is read where its head is, if the end of the body is found as it was told. -/
theorem readIn_of_isHead {rest : Bytes} {ending : Ending} {found : Framing}
    (isHead : answer.IsHead framing head)
    (aboutEnd : ∀ line ∈ framing, line.field.name ≠ Response.contentTypeName)
    (ofHead : Framing.ofHead head.read = .ok found)
    (body : found.readBody rest ending = .ok answer.body) :
    answer.ReadIn ⟨head.octets ++ rest, ending⟩ := by
  refine ⟨⟨head.read, found, rest, ending⟩, ?_, isHead.status, ?_⟩
  · intro url
    simp only [Response.ofReply, isHead.read, ofHead]
  · simp only [Response.submission, body, isHead.values_of_others aboutEnd]
    rw [show head.read.status = answer.status from isHead.status]
    rfl

/-- The client reads the same answer, however it is sent. -/
theorem SentAs.readIn {reply : Reply} (sentAs : answer.SentAs reply) : answer.ReadIn reply := by
  cases sentAs with
  | @withLength head line ending isHead named told =>
      have hasLength : head.HasLength answer.body.length := by
        rw [HeadLines.HasLength, isHead.values_codings, isHead.values_length,
          FieldLine.valuesOf_singleton named]
        refine ⟨FieldLine.valuesOf_eq_nil ?_, by simp, by simpa using told⟩
        intro other member
        rw [List.mem_singleton.mp member, named]
        decide +kernel
      have countable := answer.countable
      have word : answer.body.length < Framing.wordLimit := countable.trans_lt (by decide)
      have found := Framing.ofHead_of_hasLength isHead.hasBody hasLength
      rw [if_pos word, if_pos countable] at found
      refine readIn_of_isHead isHead ?_ found ?_
      · intro other member
        rw [List.mem_singleton.mp member, named]
        decide +kernel
      · rw [Framing.readBody, if_pos le_rfl, List.take_length]
  | @inChunks head line chunked ending isHead named told plain untrailed data =>
      have isChunked : head.IsChunked := by
        refine ⟨[], [], line.field.value, ?_, told, rfl, Or.inl rfl⟩
        rw [isHead.values_codings, FieldLine.valuesOf_singleton named]
        rfl
      have small : chunked.data.length < Chunked.Reading.sizeLimit := by
        rw [data]
        exact answer.countable.trans_lt (by decide)
      have read := Chunked.read_octets_of_isPlain plain small []
      rw [List.append_nil] at read
      refine readIn_of_isHead isHead ?_ (Framing.ofHead_of_isChunked isHead.hasBody isChunked) ?_
      · intro other member
        rw [List.mem_singleton.mp member, named]
        decide +kernel
      · simp only [Framing.readBody, read, data]
  | @untilClose head isHead =>
      have found : Framing.ofHead head.read = .ok .untilClose := by
        simp [Framing.ofHead, Framing.mayHaveBody isHead.hasBody, isHead.values_codings,
          isHead.values_length, FieldLine.valuesOf]
      exact readIn_of_isHead isHead (by simp) found rfl

end Answer

namespace Charset

/-- Whether plain octets stand for themselves in a charset: UTF-16 reads them in pairs, and a
charset that is withheld not at all. -/
def KeepsPlain : Charset → Prop
  | .utf16BigEndian | .utf16LittleEndian | .withheld => False
  | .utf8 | .multibyte _ | .singleByte _ => True

theorem decode_of_isPlain [MultibyteDecoding] {charset : Charset} (keeps : charset.KeepsPlain)
    {octets : Bytes} (plain : octets.all MultibyteCharset.isPlain = true) :
    charset.decode octets = Text.ofAscii octets := by
  have ascii := MultibyteCharset.isAscii_of_isPlain plain
  cases charset with
  | utf8 => exact Utf8.decodeLossy_ascii ascii
  | multibyte charset => exact MultibyteDecoding.decode_of_isPlain charset octets plain
  | singleByte upperHalf => exact List.map_congr_left fun b isMember => if_pos (ascii b isMember)
  | utf16BigEndian | utf16LittleEndian | withheld => exact keeps.elim

theorem byMark?_of_isPlain {octets : Bytes} (plain : octets.all MultibyteCharset.isPlain = true) :
    byMark? octets = none := by
  unfold byMark?
  split
  · simp [MultibyteCharset.isPlain] at plain
  · simp [MultibyteCharset.isPlain] at plain
  · simp [MultibyteCharset.isPlain] at plain
  · rfl

/-- A body of plain octets is its own text in every charset that keeps them. -/
theorem bodyText_of_isPlain [MultibyteDecoding] {contentType : Option Bytes}
    (keeps : ∀ charset ∈ contentType.bind ofContentType?, charset.KeepsPlain) {octets : Bytes}
    (plain : octets.all MultibyteCharset.isPlain = true) :
    bodyText contentType octets = Text.ofAscii octets := by
  simp only [bodyText, byMark?_of_isPlain plain]
  cases declared : contentType.bind ofContentType? with
  | none => exact decode_of_isPlain (show KeepsPlain .utf8 from trivial) plain
  | some charset => exact decode_of_isPlain (keeps charset declared) plain

end Charset

namespace Answer

/-- An answer of plain octets is reported as it is, whatever charset that keeps them is declared. -/
theorem submission_of_isPlain [MultibyteDecoding] {answer : Answer}
    (keeps : ∀ charset ∈ answer.contentType?.bind Charset.ofContentType?, charset.KeepsPlain)
    (plain : answer.body.all MultibyteCharset.isPlain = true) :
    answer.submission = ⟨answer.status, Text.ofAscii answer.body⟩ := by
  rw [submission, Charset.bodyText_of_isPlain keeps plain]

end Answer

end UploadProbe
