import Mathlib
import UploadProbe.Proofs.ReplyGrammar

/-!
# Reading where a body ends

A head that tells a length is read as telling that length, or it is refused if the length is too
large. A head whose last coding is the one in chunks is read as telling chunks.
-/

namespace UploadProbe

namespace Bytes

theorem splitOn_ne_nil (separator : UInt8) (octets : Bytes) : splitOn separator octets ≠ [] := by
  cases octets with
  | nil => simp [splitOn]
  | cons b octets =>
      rw [splitOn]
      split
      · simp
      · split <;> simp

theorem splitOn_append (separator : UInt8) (left right : Bytes) :
    splitOn separator (left ++ separator :: right) =
      splitOn separator left ++ splitOn separator right := by
  induction left with
  | nil => simp [splitOn]
  | cons b left inductionHypothesis =>
      rw [List.cons_append, splitOn, splitOn, inductionHypothesis]
      split
      · rfl
      · cases pieces : splitOn separator left with
        | nil => exact absurd pieces (splitOn_ne_nil separator left)
        | cons piece pieces => rfl

theorem splitOn_of_notMem {separator : UInt8} {octets : Bytes} (clear : separator ∉ octets) :
    splitOn separator octets = [octets] := by
  induction octets with
  | nil => rfl
  | cons b octets inductionHypothesis =>
      rw [List.mem_cons, not_or] at clear
      rw [splitOn, if_neg (Ne.symm clear.1), inductionHypothesis clear.2]

theorem notMem_of_mem_splitOn {separator : UInt8} {octets piece : Bytes}
    (member : piece ∈ splitOn separator octets) : separator ∉ piece := by
  induction octets generalizing piece with
  | nil => simp_all [splitOn]
  | cons b octets inductionHypothesis =>
      rw [splitOn] at member
      split at member
      · rcases List.mem_cons.mp member with rfl | isFurther
        · exact List.not_mem_nil
        · exact inductionHypothesis isFurther
      · next solid =>
        cases pieces : splitOn separator octets with
        | nil => exact absurd pieces (splitOn_ne_nil separator octets)
        | cons first others =>
            rw [pieces] at member inductionHypothesis
            rcases List.mem_cons.mp member with rfl | isFurther
            · rw [List.mem_cons, not_or]
              exact ⟨Ne.symm solid, inductionHypothesis List.mem_cons_self⟩
            · exact inductionHypothesis (List.mem_cons_of_mem first isFurther)

end Bytes

theorem FieldLine.trim_blanks_append {blanks solid : Bytes}
    (allBlank : ∀ b ∈ blanks, ReplyHead.isBlank b = true)
    (noneBlank : ∀ b ∈ solid, ReplyHead.isBlank b = false) : trim (blanks ++ solid) = solid := by
  have dropped : ∀ octets : Bytes, (∀ b ∈ octets, ReplyHead.isBlank b = false) →
      octets.dropWhile ReplyHead.isBlank = octets := by
    intro octets none
    cases octets with
    | nil => rfl
    | cons b octets => rw [List.dropWhile_cons_of_neg (by simp [none b List.mem_cons_self])]
  have noneBehind : ∀ b ∈ solid.reverse, ReplyHead.isBlank b = false := by
    intro b member
    exact noneBlank b (List.mem_reverse.mp member)
  rw [trim, List.dropWhile_append_of_pos allBlank, dropped solid noneBlank,
    dropped _ noneBehind, List.reverse_reverse]

namespace Framing

theorem elements_eq (value : Bytes) :
    elements value = (Bytes.splitOn comma value).map FieldLine.trim :=
  rfl

/-- Whether an octet can stand inside the element of a list, and never beside it. -/
def IsSolid (b : UInt8) : Prop :=
  b ≠ comma ∧ ReplyHead.isBlank b = false ∧
    (b = ReplyHead.tab || (0x20 ≤ b && b < 0x7F)) = true

instance : DecidablePred IsSolid :=
  fun _ => inferInstanceAs (Decidable (_ ∧ _ ∧ _))

section Solid

variable {solid : Bytes}

theorem isReadable_of_solid (allSolid : ∀ b ∈ solid, IsSolid b) : isReadable solid = true := by
  rw [isReadable, List.all_eq_true]
  exact fun b member => (allSolid b member).2.2

/-- Blanks and solid octets behind the last comma of a list make up its last element. -/
theorem elements_of_solid {blanks : Bytes} (allBlank : ∀ b ∈ blanks, ReplyHead.isBlank b = true)
    (allSolid : ∀ b ∈ solid, IsSolid b) : elements (blanks ++ solid) = [solid] := by
  have clear : comma ∉ blanks ++ solid := by
    intro member
    rcases List.mem_append.mp member with blank | inside
    · exact absurd (allBlank comma blank) (by decide)
    · exact (allSolid comma inside).1 rfl
  have trimmed := FieldLine.trim_blanks_append allBlank fun b member => (allSolid b member).2.1
  rw [elements_eq, Bytes.splitOn_of_notMem clear, List.map_singleton, trimmed]

end Solid

theorem isSolid_of_isDigit {b : UInt8} (digit : Bytes.isDigit b = true) : IsSolid b := by
  have every : ∀ number : Fin 256, Bytes.isDigit (UInt8.ofFin number) = true →
      IsSolid (UInt8.ofFin number) := by decide +kernel
  exact every b.toFin digit

variable {value : Bytes} {values : List Bytes} {count : Nat}

theorem isSolid_of_isNumeral (numeral : IsNumeral value count) : ∀ b ∈ value, IsSolid b :=
  fun b member => isSolid_of_isDigit (numeral.2.1 b member)

theorem elements_of_isNumeral (numeral : IsNumeral value count) : elements value = [value] :=
  @elements_of_solid value [] (by simp) (isSolid_of_isNumeral numeral)

theorem readLength?_of_isNumeral (numeral : IsNumeral value count) :
    readLength? value = if count < wordLimit then some count else none := by
  rcases numeral with ⟨nonempty, digits, told⟩
  rw [readLength?, if_neg, told]
  simpa [nonempty] using digits

theorem flatMap_elements (numerals : ∀ value ∈ values, IsNumeral value count) :
    values.flatMap elements = values := by
  induction values with
  | nil => rfl
  | cons value values inductionHypothesis =>
      rw [List.flatMap_cons, elements_of_isNumeral (numerals value List.mem_cons_self),
        inductionHypothesis fun other member => numerals other (List.mem_cons_of_mem _ member)]
      rfl

theorem mapM_readLength? (numerals : ∀ value ∈ values, IsNumeral value count)
    (countable : count < wordLimit) :
    values.mapM readLength? = some (values.map fun _ => count) := by
  induction values with
  | nil => rfl
  | cons value values inductionHypothesis =>
      rw [List.mapM_cons, readLength?_of_isNumeral (numerals value List.mem_cons_self),
        if_pos countable, inductionHypothesis fun other member =>
          numerals other (List.mem_cons_of_mem _ member)]
      rfl

/-- A length that is told once or several times is agreed on, if it fits a word. -/
theorem agreedLength?_of_numerals (told : values ≠ [])
    (numerals : ∀ value ∈ values, IsNumeral value count) :
    agreedLength? values = if count < wordLimit then some count else none := by
  have readable : values.all isReadable = true := by
    rw [List.all_eq_true]
    intro value member
    exact isReadable_of_solid (isSolid_of_isNumeral (numerals value member))
  rw [agreedLength?, readable, flatMap_elements numerals]
  by_cases countable : count < wordLimit
  · rw [mapM_readLength? numerals countable, if_pos countable]
    cases values with
    | nil => contradiction
    | cons value values => simp
  · cases values with
    | nil => contradiction
    | cons value values =>
        rw [List.mapM_cons, readLength?_of_isNumeral (numerals value List.mem_cons_self),
          if_neg countable]
        rfl

theorem mayHaveBody {head : HeadLines} (bodied : head.HasBody) :
    (head.read.status = 101 || head.read.status = 204 || head.read.status = 304) = false := by
  rcases bodied with ⟨final, noneEmpty⟩
  have noSwitch : head.status ≠ 101 := by omega
  simp [HeadLines.read, noneEmpty, noSwitch]

/-- A head that tells a length is read so, unless the length is too large. -/
theorem ofHead_of_hasLength {head : HeadLines} (bodied : head.HasBody)
    (told : head.HasLength count) :
    ofHead head.read =
      if count < wordLimit then
        if count ≤ lengthLimit then .ok (.length count) else .error .tooLong
      else .error .contentLength := by
  rcases told with ⟨noCodings, lengths, numerals⟩
  simp only [ofHead, mayHaveBody bodied, noCodings, agreedLength?_of_numerals lengths numerals,
    List.isEmpty_nil, Bool.not_true, Bool.false_eq_true, if_false, List.isEmpty_iff, lengths]
  by_cases countable : count < wordLimit
  · simp only [if_pos countable]
  · simp only [if_neg countable]

theorem isSolid_of_lowerByte_mem {b : UInt8} (member : Bytes.lowerByte b ∈ chunkedCoding) :
    IsSolid b := by
  have every : ∀ number : Fin 256, Bytes.lowerByte (UInt8.ofFin number) ∈ chunkedCoding →
      IsSolid (UInt8.ofFin number) := by decide +kernel
  exact every b.toFin member

theorem endsInChunks_of_last {earlier : List Bytes} {others coding : Bytes}
    (chunked : coding.map Bytes.lowerByte = chunkedCoding) (readable : isReadable others = true)
    (separate : others = [] ∨ ∃ codings blanks, others = codings ++ comma :: blanks ∧
      ∀ b ∈ blanks, ReplyHead.isBlank b = true) :
    endsInChunks (earlier ++ [others ++ coding]) = true := by
  have allSolid : ∀ b ∈ coding, IsSolid b := by
    intro b member
    apply isSolid_of_lowerByte_mem
    rw [← chunked]
    exact List.mem_map_of_mem member
  have readableAll : isReadable (others ++ coding) = true := by
    rw [isReadable, List.all_append, Bool.and_eq_true]
    exact ⟨readable, isReadable_of_solid allSolid⟩
  have last : (elements (others ++ coding)).getLast? = some coding := by
    rcases separate with rfl | ⟨codings, blanks, rfl, allBlank⟩
    · rw [@elements_of_solid coding [] (by simp) allSolid]
      rfl
    · have behind := elements_of_solid allBlank allSolid
      rw [elements_eq] at behind
      rw [List.append_assoc, List.cons_append, elements_eq, Bytes.splitOn_append, List.map_append,
        behind]
      simp
  simp [endsInChunks, readableAll, last, chunked]

theorem ofHead_of_isChunked {head : HeadLines} (bodied : head.HasBody) (told : head.IsChunked) :
    ofHead head.read = .ok .chunked := by
  rcases told with ⟨earlier, others, coding, codings, chunked, readable, separate⟩
  have later : ¬head.read.minorVersion = 0 := by simp [HeadLines.read]
  have named : (earlier ++ [others ++ coding]).isEmpty = false := by simp
  simp only [ofHead, mayHaveBody bodied, codings, named, later,
    endsInChunks_of_last chunked readable separate, Bool.not_false, Bool.false_eq_true, if_true,
    if_false]

end Framing

end UploadProbe
