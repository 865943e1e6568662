import UploadProbe.Proofs.ExactTimeouts

/-!
# Timeouts of whole seconds

A whole number of seconds that a mantissa can hold is written in digits and read back as it is: it
is a binary64 number, and both roundings find nothing to round.
-/

namespace UploadProbe

namespace Text

theorem decimalValue_ofNat (number : Nat) : decimalValue (ofNat number) = number := by
  have read : Nat.ofDigitChars 10 (Nat.toDigits 10 number) 0 = number :=
    Nat.ofDigitChars_ten_toDigits
  simpa only [decimalValue, ofNat, Nat.ofDigitChars, Nat.mul_comm] using read

theorem isDigit_of_mem_ofNat {number : Nat} {c : Char} (member : c ∈ ofNat number) :
    c.isDigit = true :=
  Nat.isDigit_of_mem_toDigits (by decide) (by decide) member

theorem ofNat_ne_nil (number : Nat) : ofNat number ≠ [] :=
  Nat.toDigits_ne_nil

end Text

namespace Numeral

/-- A natural number as it is written in digits. -/
def Decimal.ofNat (number : Nat) : Decimal where
  sign := .absent
  whole := Text.ofNat number
  fraction := none
  exponent := none
  areDigits := by
    intro c member
    rw [Option.getD_none, List.append_nil] at member
    exact Text.isDigit_of_mem_ofNat member
  nonempty := by
    rw [Option.getD_none, List.append_nil]
    exact Text.ofNat_ne_nil number

theorem Decimal.text_ofNat (number : Nat) : (ofNat number).text = Text.ofNat number := by
  simp [ofNat, text, unsigned, Sign.text]

theorem Decimal.number_ofNat (number : Nat) : (ofNat number).number = number := by
  have significand : (ofNat number).significand = number := by
    rw [Decimal.significand, ofNat, Option.getD_none, List.append_nil, Text.decimalValue_ofNat]
  have power : (ofNat number).exponent.elim 0 Exponent.power - (ofNat number).places = 0 := rfl
  rw [Decimal.number, significand, power, zpow_zero, mul_one]
  rfl

theorem Decimal.isCounted_ofNat (number : Nat) : (ofNat number).IsCounted := by
  intro exponent none
  contradiction

end Numeral

namespace Binary64

/-- The greatest number up to which every natural number has a mantissa of its own. -/
def greatestWhole : Nat := Nat.pow 2 (fractionBits + 1)

/-- A natural number of few bits is a binary64 number: it is scaled until its leading bit fits. -/
theorem isValue_natCast {number : Nat} (small : number ≤ greatestWhole) : IsValue number := by
  rcases Nat.eq_zero_or_pos number with rfl | positive
  · rw [Nat.cast_zero]
    exact isValue_zero
  rcases Nat.lt_or_eq_of_le small with less | rfl
  · have order : number.log2 < 53 := (Nat.log2_lt positive.ne').mpr less
    have leads : 2 ^ number.log2 ≤ number := Nat.log2_self_le positive.ne'
    have bits : 2 ^ number.log2 * 2 ^ (52 - number.log2) = 2 ^ 52 := by
      rw [← pow_add]
      congr 1
      omega
    have below : 2 ^ (number.log2 + 1) * 2 ^ (52 - number.log2) = 2 ^ 53 := by
      rw [← pow_add]
      congr 1
      omega
    have scaled : |((number * 2 ^ (52 - number.log2) : ℕ) : ℤ)| =
        number * 2 ^ (52 - number.log2) := by
      rw [Nat.abs_cast]
      push_cast
      rfl
    refine ⟨(number * 2 ^ (52 - number.log2) : ℕ), -(52 - number.log2 : ℕ), ⟨?_, ?_, ?_, ?_⟩, ?_⟩
    · rw [scaled]
      have lt : number * 2 ^ (52 - number.log2) < 2 ^ 53 := by
        rw [← below]
        exact Nat.mul_lt_mul_of_pos_right Nat.lt_log2_self (by positivity)
      exact_mod_cast lt
    · omega
    · omega
    · right
      rw [scaled]
      have le : 2 ^ 52 ≤ number * 2 ^ (52 - number.log2) := by
        rw [← bits]
        exact Nat.mul_le_mul_right _ leads
      exact_mod_cast le
    · have power : (2 : ℚ) ^ (52 - number.log2) ≠ 0 := by positivity
      rw [zpow_neg, zpow_natCast]
      push_cast
      rw [mul_assoc, mul_inv_cancel₀ power, mul_one]
  · exact ⟨2 ^ 52, 1, ⟨by norm_num, by norm_num, by norm_num, .inr (by norm_num)⟩,
      by norm_num [greatestWhole, fractionBits]⟩

end Binary64

namespace Duration

/-- A timeout of some seconds and nothing more. -/
def ofWholeSeconds (seconds : Nat) : Duration where
  seconds := seconds
  nanoseconds := 0

theorem eq_ofWholeSeconds {duration : Duration} {seconds : Nat}
    (total : duration.toNanoseconds = seconds * nanosecondsPerSecond) :
    duration = ofWholeSeconds seconds := by
  rcases duration with ⟨whole, part, part_lt⟩
  simp only [toNanoseconds, nanosecondsPerSecond] at total
  obtain rfl : part = 0 := by omega
  obtain rfl : whole = seconds := by omega
  rfl

/-- A whole number of seconds that a mantissa can hold is read as it is written. -/
theorem read_ofNat {seconds : Nat} (small : seconds ≤ Binary64.greatestWhole) :
    read (Text.ofNat seconds) = .ok (ofWholeSeconds seconds) := by
  have timeout := isTimeoutOf_number (Numeral.Decimal.isCounted_ofNat seconds)
  rw [Numeral.Decimal.text_ofNat, Numeral.Decimal.number_ofNat] at timeout
  have nonneg : (0 : ℚ) ≤ seconds := by positivity
  have countable : (seconds : ℚ) < 2 ^ 64 := by
    have less : seconds < 2 ^ 64 := lt_of_le_of_lt small (by decide +kernel)
    exact_mod_cast less
  have inRange : |(seconds : ℚ)| < Binary64.overflowBound := by
    rw [abs_of_nonneg nonneg]
    refine (countable.trans_le ?_).trans_le Binary64.power_le_overflowBound
    rw [← zpow_natCast]
    exact zpow_le_zpow_right₀ one_le_two (by norm_num)
  obtain ⟨value, -, unique, converts⟩ := timeout.finite inRange
  rw [← unique _ ((Binary64.isValue_natCast small).isNearest inRange)] at converts
  obtain ⟨duration, accepted, nearest, -⟩ := converts.accepted nonneg countable
  have distance := nearest.le_distance (seconds * nanosecondsPerSecond : ℕ)
  have scaled : (seconds : ℚ) * 10 ^ 9 = ((seconds * nanosecondsPerSecond : ℕ) : ℤ) := by
    rw [nanosecondsPerSecond]
    push_cast
    ring
  rw [scaled, sub_self, abs_zero, abs_nonpos_iff, sub_eq_zero] at distance
  have total : duration.toNanoseconds = seconds * nanosecondsPerSecond := by
    exact_mod_cast distance.symm
  rw [accepted, eq_ofWholeSeconds total]

end Duration

end UploadProbe
