import Mathlib
import UploadProbe.Proofs.Answers

/-!
# Replies as they are written

An answer can be written with the length of its body, in chunks of any pieces of the body, and
without any mark. Each of the three is a reply that sends the answer, as long as its head keeps to
the limits.
-/

namespace UploadProbe

namespace ReplyWriting

/-- A number is written by its last digit behind those of the rest, if there is a rest. -/
theorem toDigits_induction {base : Nat} (atLeastTwo : 1 < base) {motive : Nat → Bytes → Prop}
    (single : ∀ digit < base, motive digit [Bytes.ascii digit.digitChar])
    (longer : ∀ number digits, motive (number / base) digits →
      motive number (digits ++ [Bytes.ascii (number % base).digitChar])) (number : Nat) :
    motive number (Bytes.ofAscii (base.toDigits number)) := by
  induction number using Nat.strong_induction_on with
  | h number inductionHypothesis =>
      rw [Nat.toDigits_eq_if atLeastTwo]
      split
      · rename_i small
        exact single number small
      · rename_i large
        have less : number / base < number := Nat.div_lt_self (by omega) atLeastTwo
        rw [Bytes.ofAscii, List.map_append]
        exact longer number _ (inductionHypothesis (number / base) less)

/-- The digits of a number are read back, whatever the base is. -/
theorem foldl_toDigits {base : Nat} (atLeastTwo : 1 < base) {value : UInt8 → Nat}
    (digits : ∀ digit < base, value (Bytes.ascii digit.digitChar) = digit) (number : Nat) :
    (Bytes.ofAscii (base.toDigits number)).foldl (fun read b => read * base + value b) 0 =
      number := by
  refine toDigits_induction atLeastTwo (motive := fun number octets =>
    octets.foldl (fun read b => read * base + value b) 0 = number) ?_ ?_ number
  · intro digit small
    simp [digits digit small]
  · intro number octets read
    have last : number % base < base := Nat.mod_lt number (by omega)
    rw [List.foldl_append, read, List.foldl_cons, List.foldl_nil, digits _ last, Nat.mul_comm]
    exact Nat.div_add_mod number base

theorem forall_mem_toDigits {base : Nat} (atLeastTwo : 1 < base) {good : UInt8 → Prop}
    (digits : ∀ digit < base, good (Bytes.ascii digit.digitChar)) (number : Nat) :
    ∀ b ∈ Bytes.ofAscii (base.toDigits number), good b := by
  refine toDigits_induction atLeastTwo (motive := fun _ octets => ∀ b ∈ octets, good b) ?_ ?_ number
  · intro digit small b member
    rw [List.mem_singleton.mp member]
    exact digits digit small
  · intro number octets allGood b member
    rcases List.mem_append.mp member with before | isLast
    · exact allGood b before
    · rw [List.mem_singleton.mp isLast]
      exact digits _ (Nat.mod_lt number (by omega))

theorem toDigits_ne_nil (base number : Nat) : Bytes.ofAscii (base.toDigits number) ≠ [] := by
  simp [Bytes.ofAscii, Nat.toDigits_ne_nil]

theorem isNumeral_ofNat (number : Nat) :
    IsNumeral (Bytes.ofAscii (Text.ofNat number)) number := by
  refine ⟨toDigits_ne_nil 10 number, ?_, ?_⟩
  · exact forall_mem_toDigits (by decide) (by decide) number
  · exact foldl_toDigits (by decide) (by decide) number

theorem hexadecimalValue_ofNatHex (number : Nat) :
    hexadecimalValue (Bytes.ofAscii (Text.ofNatHex number)) = number :=
  foldl_toDigits (by decide) (by decide) number

theorem isHexadecimal_ofNatHex (number : Nat) :
    ∀ b ∈ Bytes.ofAscii (Text.ofNatHex number), (Chunked.Reading.digitValue? b).isSome = true :=
  forall_mem_toDigits (by decide) (by decide) number

def lengthLine (length : Nat) : FieldLine where
  name := Framing.lengthName
  value := ReplyHead.blank :: Bytes.ofAscii (Text.ofNat length)
  named := by decide +kernel
  nameBytes := by decide +kernel
  valueBytes := by
    have digits : ∀ b ∈ Bytes.ofAscii (Text.ofNat length), ReplyHead.isValueByte b = true :=
      forall_mem_toDigits (by decide) (by decide) length
    intro b member
    rcases List.mem_cons.mp member with rfl | digit
    · rfl
    · exact digits b digit

def codingsLine : FieldLine where
  name := Framing.codingsName
  value := ReplyHead.blank :: Framing.chunkedCoding
  named := by decide +kernel
  nameBytes := by decide +kernel
  valueBytes := by decide +kernel

theorem field_lengthLine (length : Nat) :
    (lengthLine length).field = ⟨Framing.lengthName, Bytes.ofAscii (Text.ofNat length)⟩ := by
  have noneBlank : ∀ b ∈ Bytes.ofAscii (Text.ofNat length), ReplyHead.isBlank b = false :=
    forall_mem_toDigits (by decide) (by decide) length
  have oneBlank : ∀ b ∈ [ReplyHead.blank], ReplyHead.isBlank b = true := by simp [ReplyHead.isBlank]
  have trimmed := FieldLine.trim_blanks_append oneBlank noneBlank
  rw [List.singleton_append] at trimmed
  rw [FieldLine.field, lengthLine, trimmed]
  congr 1

theorem field_codingsLine :
    codingsLine.field = ⟨Framing.codingsName, Framing.chunkedCoding⟩ := by
  decide +kernel

/-- A piece of a body as a chunk, with nothing behind its length. -/
def plainChunk (piece : Bytes) (nonempty : piece ≠ []) : Chunk where
  line := ⟨Bytes.ofAscii (Text.ofNatHex piece.length), [], toDigits_ne_nil 16 _,
    isHexadecimal_ofNatHex _, isExtension_nil⟩
  data := piece
  nonempty := nonempty
  measured := hexadecimalValue_ofNatHex _

def plainBody (pieces : List Bytes) (nonempty : ∀ piece ∈ pieces, piece ≠ []) : ChunkedBody where
  chunks := pieces.pmap plainChunk nonempty
  last := ⟨Bytes.ofAscii (Text.ofNatHex 0), [], toDigits_ne_nil 16 0, isHexadecimal_ofNatHex 0,
    isExtension_nil⟩
  empty := hexadecimalValue_ofNatHex 0
  trailers := []

section Pieces

variable {pieces : List Bytes} (nonempty : ∀ piece ∈ pieces, piece ≠ [])

theorem isPlain_plainBody : (plainBody pieces nonempty).IsPlain := by
  refine ⟨?_, rfl⟩
  intro chunk member
  rcases List.mem_pmap.mp member with ⟨piece, inside, rfl⟩
  rfl

theorem data_plainBody : (plainBody pieces nonempty).data = pieces.flatten := by
  rw [ChunkedBody.data, plainBody]
  induction pieces with
  | nil => rfl
  | cons piece pieces inductionHypothesis =>
      rw [List.pmap_cons, List.flatMap_cons, List.flatten_cons, inductionHypothesis]
      rfl

theorem octets_plainBody :
    (plainBody pieces nonempty).octets = pieces.flatMap chunk ++ lastChunk := by
  have chunks : (pieces.pmap plainChunk nonempty).flatMap Chunk.octets = pieces.flatMap chunk := by
    induction pieces with
    | nil => rfl
    | cons piece pieces inductionHypothesis =>
        rw [List.pmap_cons, List.flatMap_cons, List.flatMap_cons, inductionHypothesis]
        simp only [Chunk.octets, SizeLine.octets, plainChunk, chunk, List.nil_append,
          List.append_assoc]
  rw [ChunkedBody.octets, plainBody, chunks]
  rfl

end Pieces

end ReplyWriting

namespace Answer

open ReplyWriting

variable {answer : Answer} {fields : List ReplyField}

/-- The head of an answer with further lines behind its fields. -/
def headWith (answer : Answer) (framing : List FieldLine) : HeadLines where
  status := answer.status
  reason := none
  lines := answer.fields ++ framing
  least := le_trans (by decide) answer.least
  greatest := answer.greatest
  reasonBytes := by simp

theorem isHead_headWith {framing : List FieldLine} (fits : (answer.headWith framing).Fits) :
    answer.IsHead framing (answer.headWith framing) :=
  ⟨rfl, ⟨answer.fields, [], (List.append_nil _).symm, by rw [List.append_nil]; rfl⟩, fits⟩

theorem octets_headWith {framing : List FieldLine} {marks : List ReplyField}
    (written : answer.fields.flatMap FieldLine.octets = fields.flatMap fieldLine)
    (marked : framing.flatMap FieldLine.octets = marks.flatMap fieldLine) :
    (answer.headWith framing).octets = ReplyWriting.head answer.status (fields ++ marks) := by
  simp only [HeadLines.octets, HeadLines.firstLine, HeadLines.reasonOctets, headWith,
    ReplyWriting.head, List.flatMap_append, written, marked, Bytes.ofAscii, List.map_append,
    Option.elim_none, List.nil_append, List.append_assoc]

/-- The length of a body that is written is the one that the reader finds. -/
theorem sentAs_withLength
    (written : answer.fields.flatMap FieldLine.octets = fields.flatMap fieldLine)
    (fits : (answer.headWith [lengthLine answer.body.length]).Fits) (ending : Ending) :
    answer.SentAs ⟨withLength answer.status fields answer.body, ending⟩ := by
  have marked : [lengthLine answer.body.length].flatMap FieldLine.octets =
      [⟨Framing.lengthName, Bytes.ofAscii (Text.ofNat answer.body.length)⟩].flatMap fieldLine :=
    rfl
  rw [withLength, ← octets_headWith written marked]
  refine .withLength ending (isHead_headWith fits) ?_ ?_
  · rw [field_lengthLine]
  · rw [field_lengthLine]
    exact isNumeral_ofNat answer.body.length

theorem sentAs_inChunks {pieces : List Bytes}
    (written : answer.fields.flatMap FieldLine.octets = fields.flatMap fieldLine)
    (nonempty : ∀ piece ∈ pieces, piece ≠ []) (whole : pieces.flatten = answer.body)
    (fits : (answer.headWith [codingsLine]).Fits) (ending : Ending) :
    answer.SentAs ⟨inChunks answer.status fields pieces, ending⟩ := by
  have marked : [codingsLine].flatMap FieldLine.octets =
      [⟨Framing.codingsName, Framing.chunkedCoding⟩].flatMap fieldLine :=
    rfl
  rw [inChunks, ← octets_headWith written marked, List.append_assoc, ← octets_plainBody nonempty]
  refine .inChunks ending (isHead_headWith fits) ?_ ?_ (isPlain_plainBody nonempty) rfl ?_
  · rw [field_codingsLine]
  · rw [field_codingsLine]
    rfl
  · rw [data_plainBody nonempty, whole]

theorem sentAs_untilClose
    (written : answer.fields.flatMap FieldLine.octets = fields.flatMap fieldLine)
    (fits : (answer.headWith []).Fits) :
    answer.SentAs ⟨untilClose answer.status fields answer.body, .closes⟩ := by
  have heads := octets_headWith written (show [].flatMap FieldLine.octets = [].flatMap fieldLine
    from rfl)
  rw [List.append_nil] at heads
  rw [untilClose, ← heads]
  exact .untilClose (isHead_headWith fits)

/-- A head that fits with further lines fits without them. -/
theorem fits_headWith_nil {framing : List FieldLine} (fits : (answer.headWith framing).Fits) :
    (answer.headWith []).Fits := by
  obtain ⟨octets, lines, names⟩ := fits
  have shorter : (answer.headWith []).octets.length ≤ (answer.headWith framing).octets.length := by
    simp [HeadLines.octets, HeadLines.firstLine, HeadLines.reasonOctets, headWith]
  have fewer : (answer.headWith []).lines.length ≤ (answer.headWith framing).lines.length := by
    simp [headWith]
  refine ⟨shorter.trans octets, fewer.trans lines, fun line isLine => names line ?_⟩
  rw [headWith, List.append_nil] at isLine
  exact List.mem_append_left framing isLine

/-- Whether some fields are those of an answer as they are written, and a head has room for the
line that a writer adds to them. -/
structure IsWrittenWith (answer : Answer) (fields : List ReplyField) : Prop where
  lines : answer.fields.flatMap FieldLine.octets = fields.flatMap fieldLine
  lengthFits : (answer.headWith [lengthLine answer.body.length]).Fits
  codingsFits : (answer.headWith [codingsLine]).Fits

/-- The replies that the three writers make of an answer: with the length of its body, in pieces,
and up to the end of the connection. -/
def writings (answer : Answer) (fields : List ReplyField) (pieces : List Bytes) (ending : Ending) :
    List Reply :=
  [⟨withLength answer.status fields answer.body, ending⟩,
    ⟨inChunks answer.status fields pieces, ending⟩,
    ⟨untilClose answer.status fields answer.body, .closes⟩]

/-- All three writers send the answer. -/
theorem sentAs_of_mem_writings (isWritten : answer.IsWrittenWith fields) {pieces : List Bytes}
    (nonempty : ∀ piece ∈ pieces, piece ≠ []) (whole : pieces.flatten = answer.body)
    {ending : Ending} : ∀ reply ∈ answer.writings fields pieces ending, answer.SentAs reply := by
  simp only [writings, List.forall_mem_cons]
  exact ⟨sentAs_withLength isWritten.lines isWritten.lengthFits ending,
    sentAs_inChunks isWritten.lines nonempty whole isWritten.codingsFits ending,
    sentAs_untilClose isWritten.lines (fits_headWith_nil isWritten.lengthFits),
    List.forall_mem_nil _⟩

end Answer

end UploadProbe
