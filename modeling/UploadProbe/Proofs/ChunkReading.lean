import Mathlib
import UploadProbe.Proofs.ReplyGrammar

/-!
# Reading bodies in chunks

The reader of chunks either refuses a body that is one, for a length that does not fit a word or for
what stands behind a length, or it reads exactly the data of its chunks and stops where the body
ends. Where nothing stands behind the lengths, only the lengths can be refused.
-/

namespace UploadProbe.Chunked.Reading

section Lines

variable (collected : Bytes) (passedOver : Nat)

def continued (value : Nat) (digits : Bytes) : Nat :=
  digits.foldl (fun value b => value * 16 + (digitValue? b).getD 0) value

theorem le_continued (value : Nat) (digits : Bytes) : value ≤ continued value digits := by
  induction digits generalizing value with
  | nil => exact le_refl value
  | cons b digits inductionHypothesis =>
      have behind := inductionHypothesis (value * 16 + (digitValue? b).getD 0)
      rw [continued, List.foldl_cons, ← continued]
      omega

/-- In the digits of a length, the reader adds one digit after the other, unless the length gets too
large for a word. -/
theorem scan_digits {digits : Bytes}
    (hexadecimal : ∀ b ∈ digits, (digitValue? b).isSome = true) {value : Nat}
    (small : value < sizeLimit) (rest : Bytes) :
    scan step ⟨.size value, collected, passedOver⟩ (digits ++ rest) =
      if continued value digits < sizeLimit then
        scan step ⟨.size (continued value digits), collected, passedOver⟩ rest
      else .refused .sizeOverflow := by
  induction digits generalizing value with
  | nil => exact (if_pos small).symm
  | cons b digits inductionHypothesis =>
      rcases Option.isSome_iff_exists.mp (hexadecimal b List.mem_cons_self) with ⟨digit, isDigit⟩
      have added : continued value (b :: digits) = continued (value * 16 + digit) digits := by
        rw [continued, List.foldl_cons, isDigit, Option.getD_some, ← continued]
      rw [added, List.cons_append, scan]
      simp only [step, isDigit, withDigit, moveTo]
      by_cases fits : value * 16 + digit < sizeLimit
      · rw [if_neg (by omega)]
        exact inductionHypothesis
          (fun octet member => hexadecimal octet (List.mem_cons_of_mem _ member)) fits
      · have above := le_continued (value * 16 + digit) digits
        rw [if_pos (by omega), if_neg (by omega)]

theorem scan_size {digits : Bytes} (sized : digits ≠ [])
    (hexadecimal : ∀ b ∈ digits, (digitValue? b).isSome = true) (rest : Bytes) :
    scan step ⟨.start, collected, passedOver⟩ (digits ++ rest) =
      if hexadecimalValue digits < sizeLimit then
        scan step ⟨.size (hexadecimalValue digits), collected, passedOver⟩ rest
      else .refused .sizeOverflow := by
  cases digits with
  | nil => contradiction
  | cons b digits =>
      have behind := scan_digits collected passedOver hexadecimal (show 0 < sizeLimit by decide)
        rest
      rcases Option.isSome_iff_exists.mp (hexadecimal b List.mem_cons_self) with ⟨digit, isDigit⟩
      rw [show hexadecimalValue (b :: digits) = continued 0 (b :: digits) from rfl, ← behind]
      simp only [List.cons_append, scan, step, isDigit]
      rfl

/-- Behind the line of a length: in the data, or behind the last chunk. -/
def behindSize (size : Nat) : Place :=
  if size = 0 then .lineStart else .data size

theorem scan_sizeReturn (size : Nat) (rest : Bytes) :
    scan step ⟨.sizeReturn size, collected, passedOver⟩ (0x0A :: rest) =
      scan step ⟨behindSize size, collected, passedOver⟩ rest := by
  simp only [scan, step, behindSize, moveTo]
  by_cases zero : size = 0 <;> simp [zero]

theorem scan_extension {extension : Bytes}
    (inLine : ∀ b ∈ extension, b ≠ 0x0D ∧ b ≠ 0x0A) (size : Nat) (rest : Bytes) :
    (∃ error, scan step ⟨.extension size, collected, passedOver⟩
        (extension ++ (ReplyWriting.lineEnd ++ rest)) = .refused error) ∨
      ∃ passed, scan step ⟨.extension size, collected, passedOver⟩
        (extension ++ (ReplyWriting.lineEnd ++ rest)) =
          scan step ⟨behindSize size, collected, passed⟩ rest := by
  induction extension generalizing passedOver with
  | nil => exact Or.inr ⟨passedOver, scan_sizeReturn collected passedOver size rest⟩
  | cons b extension inductionHypothesis =>
      rcases inLine b List.mem_cons_self with ⟨noReturn, noFeed⟩
      simp only [List.cons_append, scan, step, if_neg noReturn, if_neg noFeed]
      by_cases many : extensionLimit ≤ passedOver + 1
      · simp only [if_pos many]
        exact Or.inl ⟨_, rfl⟩
      · simp only [if_neg many]
        exact inductionHypothesis (passedOver + 1)
          fun octet member => inLine octet (List.mem_cons_of_mem _ member)

theorem scan_sizeBlank {extension : Bytes}
    (inLine : ∀ b ∈ extension, b ≠ 0x0D ∧ b ≠ 0x0A) (size : Nat) (rest : Bytes) :
    (∃ error, scan step ⟨.sizeBlank size, collected, passedOver⟩
        (extension ++ (ReplyWriting.lineEnd ++ rest)) = .refused error) ∨
      ∃ passed, scan step ⟨.sizeBlank size, collected, passedOver⟩
        (extension ++ (ReplyWriting.lineEnd ++ rest)) =
          scan step ⟨behindSize size, collected, passed⟩ rest := by
  induction extension with
  | nil => exact Or.inr ⟨passedOver, scan_sizeReturn collected passedOver size rest⟩
  | cons b extension inductionHypothesis =>
      have behind : ∀ octet ∈ extension, octet ≠ 0x0D ∧ octet ≠ 0x0A :=
        fun octet member => inLine octet (List.mem_cons_of_mem _ member)
      rcases inLine b List.mem_cons_self with ⟨noReturn, -⟩
      simp only [List.cons_append, scan, step, stepSizeLine, if_neg noReturn, moveTo]
      by_cases blank : (b = 0x09 || b = 0x20) = true
      · simp only [if_pos blank]
        exact inductionHypothesis behind
      by_cases semicolon : b = 0x3B
      · simp only [if_neg blank, if_pos semicolon]
        exact scan_extension collected passedOver behind size rest
      · simp only [if_neg blank, if_neg semicolon]
        exact Or.inl ⟨_, rfl⟩

theorem scan_behindDigits {extension : Bytes} (extended : IsExtension extension) (size : Nat)
    (rest : Bytes) :
    (∃ error, scan step ⟨.size size, collected, passedOver⟩
        (extension ++ (ReplyWriting.lineEnd ++ rest)) = .refused error) ∨
      ∃ passed, scan step ⟨.size size, collected, passedOver⟩
        (extension ++ (ReplyWriting.lineEnd ++ rest)) =
          scan step ⟨behindSize size, collected, passed⟩ rest := by
  rcases extended with ⟨rfl | ⟨b, extension, rfl, begins⟩, inLine⟩
  · exact Or.inr ⟨passedOver, scan_sizeReturn collected passedOver size rest⟩
  · have behind : ∀ octet ∈ extension, octet ≠ 0x0D ∧ octet ≠ 0x0A :=
      fun octet member => inLine octet (List.mem_cons_of_mem _ member)
    rcases begins with rfl | rfl | rfl
    · exact scan_sizeBlank collected passedOver behind size rest
    · exact scan_sizeBlank collected passedOver behind size rest
    · exact scan_extension collected passedOver behind size rest

theorem scan_sizeLine (line : SizeLine) (rest : Bytes) :
    (∃ error, scan step ⟨.start, collected, passedOver⟩ (line.octets ++ rest) =
        .refused error) ∨
      ∃ passed, scan step ⟨.start, collected, passedOver⟩ (line.octets ++ rest) =
        scan step ⟨behindSize line.size, collected, passed⟩ rest := by
  have digits := scan_size collected passedOver line.sized line.hexadecimal
    (line.extension ++ (ReplyWriting.lineEnd ++ rest))
  rw [SizeLine.octets, List.append_assoc, List.append_assoc, digits]
  by_cases fits : hexadecimalValue line.digits < sizeLimit
  · rw [if_pos fits]
    exact scan_behindDigits collected passedOver line.extended line.size rest
  · rw [if_neg fits]
    exact Or.inl ⟨_, rfl⟩

/-- The data of a chunk are collected, and the end of their line is passed over. -/
theorem scan_data {data : Bytes} (nonempty : data ≠ []) (rest : Bytes) :
    scan step ⟨.data data.length, collected, passedOver⟩
        (data ++ (ReplyWriting.lineEnd ++ rest)) =
      scan step ⟨.start, data.reverse ++ collected, passedOver⟩ rest := by
  induction data generalizing collected with
  | nil => contradiction
  | cons b data inductionHypothesis =>
      simp only [List.cons_append, scan, step, List.length_cons, Nat.add_sub_cancel]
      cases data with
      | nil => rfl
      | cons next data =>
          rw [if_neg (by simp), List.reverse_cons, List.append_assoc]
          exact inductionHypothesis (b :: collected) (by simp)

theorem scan_trailer {octets : Bytes} (inLine : ∀ b ∈ octets, b ≠ 0x0D) (rest : Bytes) :
    scan step ⟨.trailer, collected, passedOver⟩ (octets ++ (ReplyWriting.lineEnd ++ rest)) =
      scan step ⟨.lineStart, collected, passedOver⟩ rest := by
  induction octets with
  | nil => rfl
  | cons b octets inductionHypothesis =>
      simp only [List.cons_append, scan, step, if_neg (inLine b List.mem_cons_self), moveTo]
      exact inductionHypothesis fun octet member => inLine octet (List.mem_cons_of_mem _ member)

theorem scan_trailers (lines : List FieldLine) (rest : Bytes) :
    scan step ⟨.lineStart, collected, passedOver⟩ (lines.flatMap FieldLine.octets ++ rest) =
      scan step ⟨.lineStart, collected, passedOver⟩ rest := by
  induction lines with
  | nil => rfl
  | cons line lines inductionHypothesis =>
      rw [List.flatMap_cons, List.append_assoc, ← inductionHypothesis]
      have nameBytes := line.nameBytes
      rw [FieldLine.octets]
      cases named : line.name with
      | nil => exact absurd named line.named
      | cons b name =>
          rw [named] at nameBytes
          have noReturn : b ≠ 0x0D := (ReplyHead.isNameByte_ne (nameBytes b List.mem_cons_self)).1
          have inLine : ∀ octet ∈ name ++ ReplyHead.colon :: line.value, octet ≠ 0x0D := by
            intro octet member
            rcases List.mem_append.mp member with inName | behind
            · exact (ReplyHead.isNameByte_ne (nameBytes octet (List.mem_cons_of_mem b inName))).1
            rcases List.mem_cons.mp behind with rfl | inValue
            · decide
            · exact (ReplyHead.isValueByte_ne (line.valueBytes octet inValue)).1
          have read := scan_trailer collected passedOver inLine
            (lines.flatMap FieldLine.octets ++ rest)
          simp only [List.cons_append, List.append_assoc, scan, step, if_neg noReturn, moveTo]
            at read ⊢
          exact read

theorem scan_chunk (chunk : Chunk) (rest : Bytes) :
    (∃ error, scan step ⟨.start, collected, passedOver⟩ (chunk.octets ++ rest) =
        .refused error) ∨
      ∃ passed, scan step ⟨.start, collected, passedOver⟩ (chunk.octets ++ rest) =
        scan step ⟨.start, chunk.data.reverse ++ collected, passed⟩ rest := by
  have inData : behindSize chunk.line.size = .data chunk.data.length := by
    have positive := List.length_pos_iff.mpr chunk.nonempty
    rw [behindSize, chunk.measured, if_neg (by omega)]
  rw [Chunk.octets, List.append_assoc, List.append_assoc]
  rcases scan_sizeLine collected passedOver chunk.line
    (chunk.data ++ (ReplyWriting.lineEnd ++ rest)) with refused | ⟨passed, read⟩
  · exact Or.inl refused
  · rw [inData, scan_data collected passed chunk.nonempty] at read
    exact Or.inr ⟨passed, read⟩

theorem scan_ending (body : ChunkedBody) (rest : Bytes) :
    (∃ error, scan step ⟨.start, collected, passedOver⟩ (body.ending ++ rest) =
        .refused error) ∨
      scan step ⟨.start, collected, passedOver⟩ (body.ending ++ rest) =
        .complete collected.reverse rest := by
  rw [ChunkedBody.ending, List.append_assoc, List.append_assoc]
  rcases scan_sizeLine collected passedOver body.last
    (body.trailers.flatMap FieldLine.octets ++ (ReplyWriting.lineEnd ++ rest))
    with refused | ⟨passed, read⟩
  · exact Or.inl refused
  · rw [body.empty, behindSize, if_pos rfl, scan_trailers] at read
    exact Or.inr read

theorem scan_chunks (chunks : List Chunk) (rest : Bytes) :
    (∃ error, scan step ⟨.start, collected, passedOver⟩
        (chunks.flatMap Chunk.octets ++ rest) = .refused error) ∨
      ∃ passed, scan step ⟨.start, collected, passedOver⟩
        (chunks.flatMap Chunk.octets ++ rest) =
          scan step ⟨.start, (chunks.flatMap Chunk.data).reverse ++ collected, passed⟩ rest := by
  induction chunks generalizing collected passedOver with
  | nil => exact Or.inr ⟨passedOver, rfl⟩
  | cons chunk chunks inductionHypothesis =>
      rw [List.flatMap_cons, List.flatMap_cons, List.append_assoc, List.reverse_append,
        List.append_assoc]
      rcases scan_chunk collected passedOver chunk (chunks.flatMap Chunk.octets ++ rest)
        with refused | ⟨passed, read⟩
      · exact Or.inl refused
      · rw [read]
        exact inductionHypothesis (chunk.data.reverse ++ collected) passed

theorem scan_plainLine {line : SizeLine} (plain : line.extension = [])
    (small : line.size < sizeLimit) (rest : Bytes) :
    scan step ⟨.start, collected, passedOver⟩ (line.octets ++ rest) =
      scan step ⟨behindSize line.size, collected, passedOver⟩ rest := by
  have digits := scan_size collected passedOver line.sized line.hexadecimal
    (ReplyWriting.lineEnd ++ rest)
  rw [← SizeLine.size, if_pos small] at digits
  rw [SizeLine.octets, plain, List.nil_append, List.append_assoc, digits]
  exact scan_sizeReturn collected passedOver line.size rest

theorem scan_plainChunks {chunks : List Chunk}
    (plain : ∀ chunk ∈ chunks, chunk.line.extension = [])
    (small : ∀ chunk ∈ chunks, chunk.data.length < sizeLimit) (rest : Bytes) :
    scan step ⟨.start, collected, passedOver⟩ (chunks.flatMap Chunk.octets ++ rest) =
      scan step ⟨.start, (chunks.flatMap Chunk.data).reverse ++ collected, passedOver⟩ rest := by
  induction chunks generalizing collected with
  | nil => rfl
  | cons chunk chunks inductionHypothesis =>
      have first := small chunk List.mem_cons_self
      have inData : behindSize chunk.line.size = .data chunk.data.length := by
        have positive := List.length_pos_iff.mpr chunk.nonempty
        rw [behindSize, chunk.measured, if_neg (by omega)]
      rw [List.flatMap_cons, List.flatMap_cons, List.append_assoc, List.reverse_append,
        List.append_assoc, Chunk.octets, List.append_assoc, List.append_assoc,
        scan_plainLine collected passedOver (plain chunk List.mem_cons_self)
          (by rwa [chunk.measured]),
        inData, scan_data collected passedOver chunk.nonempty]
      exact inductionHypothesis (chunk.data.reverse ++ collected)
        (fun other member => plain other (List.mem_cons_of_mem _ member))
        (fun other member => small other (List.mem_cons_of_mem _ member))

end Lines

end UploadProbe.Chunked.Reading

namespace UploadProbe.Chunked

/-- A body in chunks is refused or read to its end, whatever follows it. -/
theorem read_octets (body : ChunkedBody) (rest : Bytes) :
    (∃ error, read (body.octets ++ rest) = .refused error) ∨
      read (body.octets ++ rest) = .complete body.data rest := by
  rw [read, ChunkedBody.octets, List.append_assoc]
  rcases Reading.scan_chunks [] 0 body.chunks (body.ending ++ rest) with refused | ⟨passed, behind⟩
  · exact Or.inl refused
  · rw [show Reading.fresh = ⟨.start, [], 0⟩ from rfl, behind]
    rcases Reading.scan_ending ((body.chunks.flatMap Chunk.data).reverse ++ []) passed body rest
      with refused | complete
    · exact Or.inl refused
    · rw [List.append_nil] at complete ⊢
      rw [List.reverse_reverse] at complete
      exact Or.inr complete

theorem length_le_of_mem {body : ChunkedBody} {chunk : Chunk} (member : chunk ∈ body.chunks) :
    chunk.data.length ≤ body.data.length := by
  rw [ChunkedBody.data, List.length_flatMap]
  exact List.le_sum_of_mem (List.mem_map_of_mem member)

/-- A body in chunks behind whose lengths nothing stands is read to its end, whatever follows it. -/
theorem read_octets_of_isPlain {body : ChunkedBody} (plain : body.IsPlain)
    (small : body.data.length < Reading.sizeLimit) (rest : Bytes) :
    read (body.octets ++ rest) = .complete body.data rest := by
  have smallChunks : ∀ chunk ∈ body.chunks, chunk.data.length < Reading.sizeLimit :=
    fun chunk member => (length_le_of_mem member).trans_lt small
  have none : body.last.size < Reading.sizeLimit := by
    rw [body.empty]
    decide
  rw [read, ChunkedBody.octets, ChunkedBody.ending, List.append_assoc, List.append_assoc,
    List.append_assoc, show Reading.fresh = ⟨.start, [], 0⟩ from rfl,
    Reading.scan_plainChunks [] 0 plain.1 smallChunks, Reading.scan_plainLine _ 0 plain.2 none,
    body.empty, Reading.behindSize, if_pos rfl, Reading.scan_trailers, List.append_nil]
  simp only [ReplyWriting.lineEnd, List.cons_append, List.nil_append]
  show Scanned.complete (body.chunks.flatMap Chunk.data).reverse.reverse rest = _
  rw [List.reverse_reverse]
  rfl

end UploadProbe.Chunked
