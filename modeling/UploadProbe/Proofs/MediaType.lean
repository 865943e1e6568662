import Mathlib
import UploadProbe.MediaType

/-!
# The octets of media types

A text that is read as a media type holds no control characters, and neither does what is announced
for it: reading changes nothing but the case of letters. So a media type never ends a line.
-/

namespace UploadProbe.MediaType

/-- Whether an octet is no control character below the blank. -/
def IsPrintable (b : UInt8) : Prop :=
  31 < b

instance : DecidablePred IsPrintable :=
  fun b => inferInstanceAs (Decidable (31 < b))

theorem isPrintable_of_isToken {b : UInt8} (token : isToken b = true) : IsPrintable b := by
  have every : ∀ number : Fin 256, isToken (UInt8.ofFin number) = true →
      IsPrintable (UInt8.ofFin number) := by decide +kernel
  exact every b.toFin token

theorem isPrintable_lowerByte {b : UInt8} (printable : IsPrintable b) :
    IsPrintable (Bytes.lowerByte b) := by
  have every : ∀ number : Fin 256, IsPrintable (UInt8.ofFin number) →
      IsPrintable (Bytes.lowerByte (UInt8.ofFin number)) := by decide +kernel
  exact every b.toFin printable

theorem isPrintable_of_and {b expected : UInt8} {further : Bool}
    (both : (decide (b = expected) && further) = true) (printable : IsPrintable expected) :
    IsPrintable b := by
  rw [Bool.and_eq_true, decide_eq_true_eq] at both
  rw [both.1]
  exact printable

theorem isPrintable_of_readType {position start : Nat} {bytes rest : Bytes}
    (read : readType position bytes = .ok (start, rest)) :
    ∀ b ∈ bytes, IsPrintable b ∨ b ∈ rest := by
  induction bytes generalizing position with
  | nil => simp [readType] at read
  | cons octet bytes inductionHypothesis =>
      intro b member
      rw [readType] at read
      split at read
      · rename_i token
        rcases List.mem_cons.mp member with rfl | behind
        · exact Or.inl (isPrintable_of_isToken token)
        · exact inductionHypothesis read b behind
      split at read
      · rename_i slashed
        rw [Except.ok.injEq, Prod.mk.injEq] at read
        rcases List.mem_cons.mp member with rfl | behind
        · exact Or.inl (isPrintable_of_and slashed (by decide))
        · exact Or.inr (read.2 ▸ behind)
      · contradiction

theorem isPrintable_of_readSubtype {start position : Nat} {bytes : Bytes}
    {further : Option (Nat × Bytes)} (read : readSubtype start position bytes = .ok further) :
    ∀ b ∈ bytes, IsPrintable b ∨ ∃ stop rest, further = some (stop, rest) ∧ b ∈ rest := by
  induction bytes generalizing position with
  | nil => simp
  | cons octet bytes inductionHypothesis =>
      intro b member
      rw [readSubtype] at read
      split at read
      · rename_i ended
        rw [Except.ok.injEq] at read
        rcases List.mem_cons.mp member with rfl | behind
        · exact Or.inl (isPrintable_of_and ended (by decide))
        · exact Or.inr ⟨position, bytes, read.symm, behind⟩
      split at read
      · rename_i token
        rcases List.mem_cons.mp member with rfl | behind
        · exact Or.inl (isPrintable_of_isToken token)
        · exact inductionHypothesis read b behind
      · contradiction

theorem isPrintable_of_step {place : Place} {position : Nat} {b : UInt8}
    {next : Place × List MediaParameter} (read : step place position b = .ok next) :
    IsPrintable b := by
  cases place with
  | name start =>
      simp only [step] at read
      split_ifs at read with blanked token equal
      · exact isPrintable_of_and blanked (by decide)
      · exact isPrintable_of_isToken token
      · exact isPrintable_of_and equal (by decide)
  | value nameStart nameEnd start =>
      simp only [step] at read
      split_ifs at read with quoted token ended
      · exact isPrintable_of_and quoted (by decide)
      · exact isPrintable_of_isToken token
      · exact isPrintable_of_and ended (by decide)
  | quotedValue nameStart nameEnd start =>
      simp only [step] at read
      split_ifs at read with quoted inside
      · exact isPrintable_of_and quoted (by decide)
      · rw [isQuoted, Bool.and_eq_true, decide_eq_true_eq] at inside
        exact inside.1
  | behindQuote =>
      simp only [step] at read
      split_ifs at read with ended blanked
      · rw [ended]
        decide
      · rw [blanked]
        decide

theorem isPrintable_of_readParameters {place : Place} {position : Nat} {bytes : Bytes}
    {parameters : List MediaParameter}
    (read : readParameters place position bytes = .ok parameters) :
    ∀ b ∈ bytes, IsPrintable b := by
  induction bytes generalizing place position parameters with
  | nil => simp
  | cons octet bytes inductionHypothesis =>
      intro b member
      rw [readParameters] at read
      cases stepped : step place position octet with
      | error error => simp [stepped] at read
      | ok next =>
          rcases List.mem_cons.mp member with rfl | behind
          · exact isPrintable_of_step stepped
          · rw [stepped] at read
            dsimp only at read
            cases further : readParameters next.1 (position + 1) bytes with
            | error error => simp [further] at read
            | ok parameters => exact inductionHypothesis further b behind

theorem isPrintable_lowerWithin {start stop : Nat} {bytes : Bytes}
    (printable : ∀ b ∈ bytes, IsPrintable b) :
    ∀ b ∈ lowerWithin start stop bytes, IsPrintable b := by
  intro b member
  rw [lowerWithin, List.mem_append, List.mem_append] at member
  rcases member with (before | inside) | behind
  · exact printable b (List.mem_of_mem_take before)
  · rw [List.mem_map] at inside
    rcases inside with ⟨octet, within, rfl⟩
    exact isPrintable_lowerByte
      (printable octet (List.mem_of_mem_take (List.mem_of_mem_drop within)))
  · exact printable b (List.mem_of_mem_drop behind)

theorem isPrintable_lowerParameters {parameters : List MediaParameter} {bytes : Bytes}
    (printable : ∀ b ∈ bytes, IsPrintable b) :
    ∀ b ∈ parameters.foldl lowerParameter bytes, IsPrintable b := by
  induction parameters generalizing bytes with
  | nil => exact printable
  | cons parameter parameters inductionHypothesis =>
      apply inductionHypothesis
      rw [lowerParameter]
      split
      · exact isPrintable_lowerWithin (isPrintable_lowerWithin printable)
      · exact isPrintable_lowerWithin printable

theorem isPrintable_map_lowerByte {bytes : Bytes} (printable : ∀ b ∈ bytes, IsPrintable b) :
    ∀ b ∈ bytes.map Bytes.lowerByte, IsPrintable b := by
  intro b member
  rw [List.mem_map] at member
  rcases member with ⟨octet, within, rfl⟩
  exact isPrintable_lowerByte (printable octet within)

theorem isPrintable_of_readBytes {bytes : Bytes} {reading : Reading}
    (read : readBytes bytes = .ok reading) : ∀ b ∈ reading.announced, IsPrintable b := by
  rw [readBytes] at read
  cases typeRead : readType 0 bytes with
  | error error => simp [typeRead, bind, Except.bind] at read
  | ok subtypeAt =>
      rcases subtypeAt with ⟨start, behindSlash⟩
      simp only [typeRead, bind, Except.bind] at read
      cases subtypeRead : readSubtype start start behindSlash with
      | error error => simp [subtypeRead] at read
      | ok further =>
          have throughType := isPrintable_of_readType typeRead
          have throughSubtype := isPrintable_of_readSubtype subtypeRead
          simp only [subtypeRead] at read
          rcases further with _ | ⟨stop, behindSemicolon⟩
          · simp only [pure, Except.pure, Except.ok.injEq] at read
            have printable : ∀ b ∈ bytes, IsPrintable b := by
              intro b member
              rcases throughType b member with printable | behind
              · exact printable
              · simpa using throughSubtype b behind
            rw [← read]
            exact isPrintable_map_lowerByte printable
          · dsimp only at read
            cases parametersRead : readParameters (.name (stop + 1)) (stop + 1) behindSemicolon with
            | error error => simp [parametersRead] at read
            | ok parameters =>
                have printable : ∀ b ∈ bytes, IsPrintable b := by
                  intro b member
                  rcases throughType b member with printable | behind
                  · exact printable
                  rcases throughSubtype b behind with printable | ⟨_, _, same, behind⟩
                  · exact printable
                  · cases same
                    exact isPrintable_of_readParameters parametersRead b behind
                simp only [parametersRead] at read
                split at read
                · simp only [pure, Except.pure, Except.ok.injEq] at read
                  rw [← read]
                  exact isPrintable_map_lowerByte
                    fun b member => printable b (List.mem_of_mem_take member)
                · simp only [pure, Except.pure, Except.ok.injEq] at read
                  rw [← read]
                  exact isPrintable_lowerParameters (isPrintable_lowerWithin printable)

/-- What is announced for a media type holds printable octets only. -/
theorem isPrintable_of_read {text : Text} {octets : Bytes} (accepted : read text = .ok octets) :
    ∀ b ∈ octets, IsPrintable b := by
  rw [read] at accepted
  cases reading : readBytes (Utf8.encode text) with
  | error error => simp [reading, Except.map] at accepted
  | ok reading' =>
      simp only [reading, Except.map, Except.ok.injEq] at accepted
      rw [← accepted]
      exact isPrintable_of_readBytes reading

end UploadProbe.MediaType
