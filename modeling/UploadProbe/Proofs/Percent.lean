import Mathlib
import UploadProbe.Proofs.Utf8
import UploadProbe.Url.Percent

/-!
# Reading percent-encoding back

Whatever set of characters is encoded, the octets of a text come back from its encoded form, as long
as the percent sign itself belongs to the set. The encoded form of a segment holds nothing of the
set but percent signs, so it ends in front of every blank, quote and end of a line.
-/

namespace UploadProbe.Percent

theorem hexDigit?_digit {value : Nat} (small : value < 16) :
    Text.hexDigit? (digit value) = some value := by
  interval_cases value <;> rfl

theorem segmentSet_digit {value : Nat} (small : value < 16) : segmentSet (digit value) = false := by
  interval_cases value <;> rfl

theorem decode_octet (b : UInt8) (rest : Text) : decode (octet b ++ rest) = b :: decode rest := by
  have bound : b.toNat < 256 := b.toNat_lt
  have whole : UInt8.ofNat (b.toNat / 16 * 16 + b.toNat % 16) = b := by
    rw [Nat.div_add_mod' b.toNat 16]
    exact UInt8.ofNat_toNat
  simp only [octet, List.cons_append, List.nil_append, decode]
  rw [hexDigit?_digit (by omega), hexDigit?_digit (by omega)]
  simp only [whole]

theorem decode_octets (bytes : Bytes) (rest : Text) :
    decode (bytes.flatMap octet ++ rest) = bytes ++ decode rest := by
  induction bytes with
  | nil => rfl
  | cons b bytes inductionHypothesis =>
      rw [List.flatMap_cons, List.append_assoc, decode_octet, inductionHypothesis]
      rfl

theorem decode_cons_of_ne {c : Char} (plain : c ≠ '%') (rest : Text) :
    decode (c :: rest) = String.utf8EncodeChar c ++ decode rest := by
  rw [decode]
  intro high low behind isPercent
  exact absurd isPercent plain

/-- The octets of a text come back from its encoded form, whatever follows it. -/
theorem decode_encode {encoded : Char → Bool} (percent : encoded '%' = true) (text rest : Text) :
    decode (encode encoded text ++ rest) = Utf8.encode text ++ decode rest := by
  induction text with
  | nil => rfl
  | cons c text inductionHypothesis =>
      rw [Utf8.encode_cons, List.append_assoc, ← inductionHypothesis]
      simp only [encode, List.flatMap_cons, List.append_assoc]
      by_cases special : encoded c = true
      · rw [if_pos special, decode_octets]
      · have plain : c ≠ '%' := by
          rintro rfl
          exact special percent
        rw [if_neg special, List.singleton_append, decode_cons_of_ne plain]

theorem encode_injective {encoded : Char → Bool} (percent : encoded '%' = true) :
    Function.Injective (encode encoded) := by
  intro left right same
  have octets : ∀ text, decode (encode encoded text) = Utf8.encode text := by
    intro text
    have decoded := decode_encode percent text []
    simpa [decode] using decoded
  apply Utf8.encode_injective
  rw [← octets left, same, octets right]

theorem encode_eq_self {encoded : Char → Bool} {text : Text}
    (plain : text.any encoded = false) : encode encoded text = text := by
  induction text with
  | nil => rfl
  | cons c text inductionHypothesis =>
      rw [List.any_cons, Bool.or_eq_false_iff] at plain
      simp only [encode, List.flatMap_cons, plain.1, Bool.false_eq_true, if_false,
        List.singleton_append]
      exact congrArg (c :: ·) (inductionHypothesis plain.2)

theorem encode_singleton_ne {encoded : Char → Bool} {c : Char} (special : encoded c = true) :
    encode encoded [c] ≠ [c] := by
  intro same
  have lengths := congrArg List.length same
  have triple : ∀ b, (octet b).length = 3 := fun _ => rfl
  simp [encode, special, List.length_flatMap, triple] at lengths

/-- The encoded form of a segment holds nothing of its set but percent signs. -/
theorem eq_percent_of_mem_encode {c : Char} {text : Text}
    (member : c ∈ encode segmentSet text) : c = '%' ∨ segmentSet c = false := by
  rw [encode, List.mem_flatMap] at member
  rcases member with ⟨original, -, member⟩
  split at member
  · rw [List.mem_flatMap] at member
    rcases member with ⟨b, -, member⟩
    have bound : b.toNat < 256 := b.toNat_lt
    simp only [octet, List.mem_cons, List.not_mem_nil, or_false] at member
    rcases member with rfl | rfl | rfl
    · exact Or.inl rfl
    · exact Or.inr (segmentSet_digit (by omega))
    · exact Or.inr (segmentSet_digit (by omega))
  · rename_i plain
    rw [List.mem_singleton] at member
    exact Or.inr (by simpa [member] using plain)

/-- A character of the set that is not a percent sign does not occur in an encoded segment. -/
theorem notMem_encode {c : Char} (special : segmentSet c = true) (other : c ≠ '%') (text : Text) :
    c ∉ encode segmentSet text := by
  intro member
  rcases eq_percent_of_mem_encode member with percent | plain
  · exact other percent
  · rw [special] at plain
    contradiction

end UploadProbe.Percent
