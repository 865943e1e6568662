import UploadProbe.Proofs.NumeralGrammar
import UploadProbe.Proofs.RoundedDecimals
import UploadProbe.Timeout.Duration

/-!
# Timeouts to the nearest nanosecond

What a text gives as a timeout is settled by the number that is written: the nearest binary64 number
of seconds is taken first and the nearest nanosecond after it. A number is accepted from half the
least magnitude below zero on and up to half a step below `2 ^ 64`, and a duration never has more
seconds than a word holds.
-/

namespace UploadProbe

namespace Binary64

/-- Half the least magnitude below zero is as near to zero, and zero has the even mantissa. -/
theorem IsNearest.nonneg_iff {number value : ℚ} (nearest : IsNearest number value) :
    0 ≤ value ↔ -2 ^ (-1075 : ℤ) ≤ number := by
  have least : IsNormal (-1) (-1074) := ⟨by norm_num, le_rfl, by norm_num, .inl rfl⟩
  have zero : IsNormal 0 (-1074) := ⟨by norm_num, le_rfl, by norm_num, .inl rfl⟩
  have doubled : (2 : ℚ) ^ 1 * 2 ^ (-1075 : ℤ) = 2 ^ (-1074 : ℤ) := pow_mul_zpow _ (by norm_num)
  have positive : (0 : ℚ) < 2 ^ (-1074 : ℤ) := by positivity
  have neighbours : ∀ other, IsValue other → ((-1 : ℤ) : ℚ) * 2 ^ (-1074 : ℤ) < other →
      0 ≤ other := by
    intro other isValue above
    by_contra negative
    have step := zero.step_le le_rfl isValue.neg (by rw [Int.cast_zero, zero_mul]; linarith)
    generalize (2 : ℚ) ^ (-1074 : ℤ) = least at step above
    push_cast at step above
    linarith
  have threshold := nearest.upper_le_iff ⟨_, _, least, rfl⟩ isValue_zero
    (by rw [Int.cast_neg, Int.cast_one]; linarith) neighbours (least.not_isEvenValue (by decide))
  have middle : (((-1 : ℤ) : ℚ) * 2 ^ (-1074 : ℤ) + 0) / 2 = -2 ^ (-1075 : ℤ) := by
    rw [← doubled, Int.cast_neg, Int.cast_one]
    ring
  rwa [middle] at threshold

theorem isNormal_below_word : IsNormal (2 ^ 53 - 1) 11 :=
  ⟨by norm_num, by norm_num, by norm_num, .inr (by norm_num)⟩

/-- The greatest binary64 number below `2 ^ 64` is a step of `2048` below. -/
theorem IsValue.le_below_word {value : ℚ} (isValue : IsValue value) (less : value < 2 ^ 64) :
    value ≤ 2 ^ 64 - 2048 := by
  by_contra greater
  have step := isNormal_below_word.step_le (by norm_num) isValue (by push_cast; norm_num; linarith)
  norm_num at step
  linarith

/-- Half a step below `2 ^ 64` is as near to that, and the greatest number below has an odd
mantissa. -/
theorem IsNearest.word_le_iff {number value : ℚ} (nearest : IsNearest number value) :
    2 ^ 64 ≤ value ↔ 2 ^ 64 - 1024 ≤ number := by
  have word : IsNormal (2 ^ 52) 12 := ⟨by norm_num, by norm_num, by norm_num, .inr (by norm_num)⟩
  have isWord : IsValue (2 ^ 64) := ⟨_, _, word, by norm_num⟩
  have below : (((2 ^ 53 - 1 : ℤ) : ℤ) : ℚ) * 2 ^ (11 : ℤ) = 2 ^ 64 - 2048 := by norm_num
  have neighbours : ∀ other, IsValue other →
      ((2 ^ 53 - 1 : ℤ) : ℚ) * 2 ^ (11 : ℤ) < other → 2 ^ 64 ≤ other := by
    intro other isValue above
    by_contra less
    have le := isValue.le_below_word (not_le.mp less)
    rw [below] at above
    linarith
  have threshold := nearest.upper_le_iff ⟨_, _, isNormal_below_word, rfl⟩ isWord
    (by rw [below]; norm_num) neighbours (isNormal_below_word.not_isEvenValue (by decide))
  have middle : (((2 ^ 53 - 1 : ℤ) : ℚ) * 2 ^ (11 : ℤ) + 2 ^ 64) / 2 = 2 ^ 64 - 1024 := by norm_num
  rwa [middle] at threshold

end Binary64

namespace Duration

open Binary64

/-- Whether an outcome is what a binary64 number of seconds gives. -/
structure Converts (value : ℚ) (outcome : Except TimeoutError Duration) : Prop where
  negative : value < 0 → outcome = .error .negative
  outOfRange : 2 ^ 64 ≤ value → outcome = .error .outOfRange
  accepted : 0 ≤ value → value < 2 ^ 64 → ∃ duration : Duration, outcome = .ok duration ∧
    IsNearestWhole (value * 10 ^ 9) duration.toNanoseconds ∧
    duration.nanoseconds < 10 ^ 9 ∧ duration.seconds < 2 ^ 64

theorem ofSeconds?_eq (mantissa : ℕ) (exponent : ℤ) :
    ((mantissa : ℚ) * 2 ^ exponent < 2 ^ 64 → ∃ duration,
        ofSeconds? mantissa exponent = some duration ∧
        IsNearestWhole (mantissa * 2 ^ exponent * 10 ^ 9) duration.toNanoseconds) ∧
      (2 ^ 64 ≤ (mantissa : ℚ) * 2 ^ exponent → ofSeconds? mantissa exponent = none) := by
  have scalePositive : 0 < Nat.pow 2 (-exponent).toNat := Nat.two_pow_pos _
  have quotient : (mantissa : ℚ) * 2 ^ exponent =
      (mantissa * Nat.pow 2 exponent.toNat : ℕ) / (Nat.pow 2 (-exponent).toNat : ℕ) := by
    rw [zpow_eq_div, ← mul_div_assoc]
    simp only [Nat.pow_eq]
    push_cast
    rfl
  have nearest := isNearestWhole_roundHalfEven
    (mantissa * Nat.pow 2 exponent.toNat * nanosecondsPerSecond) scalePositive
  simp only [ofSeconds?]
  rw [quotient]
  generalize mantissa * Nat.pow 2 exponent.toNat = scaled at nearest ⊢
  generalize Nat.pow 2 (-exponent).toNat = scale at scalePositive nearest ⊢
  have positive : (0 : ℚ) < scale := by exact_mod_cast scalePositive
  have fits_iff : scaled < Nat.pow 2 secondsBits * scale ↔ (scaled / scale : ℚ) < 2 ^ 64 := by
    rw [div_lt_iff₀ positive, secondsBits, Nat.pow_eq]
    exact_mod_cast Iff.rfl
  constructor
  · intro less
    rw [if_pos (fits_iff.mpr less)]
    refine ⟨_, rfl, ?_⟩
    rw [toNanoseconds_ofNanoseconds]
    convert nearest using 1
    rw [nanosecondsPerSecond]
    push_cast
    ring
  · intro reached
    rw [if_neg (fun fits => absurd (fits_iff.mp fits) (not_lt.mpr reached))]

/-- A number below `2 ^ 64` is so far below that no rounding reaches it. -/
theorem seconds_lt {value : ℚ} (isValue : IsValue value) (less : value < 2 ^ 64)
    {duration : Duration} (nearest : IsNearestWhole (value * 10 ^ 9) duration.toNanoseconds) :
    duration.seconds < 2 ^ 64 := by
  have below := isValue.le_below_word less
  have near := (abs_le.mp nearest.distance_le).1
  have total : (duration.toNanoseconds : ℚ) < 2 ^ 64 * 10 ^ 9 := by
    push_cast at near
    linarith
  have total : duration.toNanoseconds < 2 ^ 64 * 10 ^ 9 := by exact_mod_cast total
  rw [toNanoseconds, nanosecondsPerSecond] at total
  omega

theorem converts_of_isNearest {number : ℚ} {mantissa : ℕ} {exponent : ℤ}
    (nearest : IsNearest number (mantissa * 2 ^ exponent)) :
    Converts (mantissa * 2 ^ exponent)
      (match ofSeconds? mantissa exponent with
        | some duration => .ok duration
        | none => .error .outOfRange) := by
  have spec := ofSeconds?_eq mantissa exponent
  have nonneg : 0 ≤ (mantissa : ℚ) * 2 ^ exponent := by positivity
  refine ⟨fun negative => absurd negative (not_lt.mpr nonneg), fun reached => ?_, fun _ less => ?_⟩
  · rw [spec.2 reached]
  · obtain ⟨duration, isSome, isNearest⟩ := spec.1 less
    refine ⟨duration, by rw [isSome], isNearest, ?_, seconds_lt nearest.isValue less isNearest⟩
    exact duration.nanoseconds_lt

/-- Whether an outcome is what a number of seconds gives. -/
structure IsTimeoutOf (number : ℚ) (outcome : Except TimeoutError Duration) : Prop where
  /-- A number past the finite magnitudes counts as infinite, with its sign. -/
  infinite : overflowBound ≤ |number| →
    outcome = .error (if number < 0 then .negative else .outOfRange)
  /-- Every other number has one nearest binary64 number, and that is converted. -/
  finite : |number| < overflowBound → ∃ value, IsNearest number value ∧
    (∀ other, IsNearest number other → other = value) ∧ Converts value outcome
  accepted_iff : (∃ duration, outcome = .ok duration) ↔
    -2 ^ (-1075 : ℤ) ≤ number ∧ number < 2 ^ 64 - 1024

theorem Converts.accepted_iff {value : ℚ} {outcome : Except TimeoutError Duration}
    (converts : Converts value outcome) :
    (∃ duration, outcome = .ok duration) ↔ 0 ≤ value ∧ value < 2 ^ 64 := by
  constructor
  · rintro ⟨duration, accepted⟩
    constructor
    · by_contra negative
      have refused := converts.negative (not_le.mp negative)
      rw [accepted] at refused
      contradiction
    · by_contra reached
      have refused := converts.outOfRange (not_lt.mp reached)
      rw [accepted] at refused
      contradiction
  · rintro ⟨nonneg, less⟩
    obtain ⟨duration, accepted, -⟩ := converts.accepted nonneg less
    exact ⟨duration, accepted⟩

theorem isTimeoutOf_of_isNearest {number value : ℚ} {outcome : Except TimeoutError Duration}
    (nearest : IsNearest number value) (converts : Converts value outcome) :
    IsTimeoutOf number outcome where
  infinite past := absurd nearest.inRange (not_lt.mpr past)
  finite _ := ⟨value, nearest, fun _ otherNearest => otherNearest.unique nearest, converts⟩
  accepted_iff := by
    rw [converts.accepted_iff, nearest.nonneg_iff, ← not_le, nearest.word_le_iff, not_le]

theorem isTimeoutOf_of_past {number : ℚ} (past : overflowBound ≤ |number|) :
    IsTimeoutOf number (.error (if number < 0 then .negative else .outOfRange)) where
  infinite _ := rfl
  finite less := absurd less (not_lt.mpr past)
  accepted_iff := by
    have small : (2 : ℚ) ^ (-1075 : ℤ) < 2 ^ (1023 : ℤ) :=
      zpow_lt_zpow_right₀ one_lt_two (by norm_num)
    have word : (2 : ℚ) ^ 64 ≤ 2 ^ (1023 : ℤ) := by
      rw [← zpow_natCast]
      exact zpow_le_zpow_right₀ one_le_two (by norm_num)
    have large := power_le_overflowBound.trans past
    generalize (2 : ℚ) ^ (1023 : ℤ) = power at small word large
    refine ⟨fun ⟨_, impossible⟩ => by contradiction, fun ⟨above, below⟩ => ?_⟩
    rcases le_abs'.mp large with negative | positive <;> linarith

/-- A number of seconds is rounded with its sign. -/
theorem isTimeoutOf_ofNumeral (sign : Numeral.Sign) (significand : ℕ) (exponent : ℤ) :
    IsTimeoutOf (sign.apply ((significand : ℚ) * 10 ^ exponent))
      (ofNumeral (.finite sign.isMinus significand exponent)) := by
  have rounds := rounds_ofDecimal significand exponent
  have nonneg : (0 : ℚ) ≤ significand * 10 ^ exponent := by positivity
  simp only [ofNumeral, Numeral.Sign.apply]
  generalize ofDecimal significand exponent = magnitude at rounds
  generalize (significand : ℚ) * 10 ^ exponent = number at rounds nonneg
  cases magnitude with
  | infinite =>
      have rounds : overflowBound ≤ number := rounds
      have powerPositive : (0 : ℚ) < 2 ^ (1023 : ℤ) := by positivity
      have positive : 0 < number := (powerPositive.trans_le power_le_overflowBound).trans_le rounds
      cases sign.isMinus with
      | false =>
          have timeout := isTimeoutOf_of_past (rounds.trans (le_abs_self number))
          rwa [if_neg (not_lt.mpr nonneg)] at timeout
      | true =>
          have past : overflowBound ≤ |(-number)| := by
            rw [abs_neg]
            exact rounds.trans (le_abs_self number)
          have timeout := isTimeoutOf_of_past past
          rwa [if_pos (neg_lt_zero.mpr positive)] at timeout
  | finite mantissa exponent =>
      have rounds : IsNearest number (mantissa * 2 ^ exponent) := rounds
      have converts := converts_of_isNearest rounds
      cases sign.isMinus with
      | false => exact isTimeoutOf_of_isNearest rounds converts
      | true =>
          by_cases isZero : mantissa = 0
          · subst isZero
            rw [Nat.cast_zero, zero_mul] at rounds converts
            have nearest := rounds.neg
            rw [neg_zero] at nearest
            exact isTimeoutOf_of_isNearest nearest converts
          · have positive : 0 < (mantissa : ℚ) * 2 ^ exponent := by
              have positive : 0 < mantissa := Nat.pos_of_ne_zero isZero
              positivity
            have isMinus : (true && !(Binary64.finite mantissa exponent).isZero) = true := by
              simp [Binary64.isZero, isZero]
            rw [if_pos isMinus]
            refine isTimeoutOf_of_isNearest rounds.neg
              ⟨fun _ => rfl, fun reached => ?_, fun above => ?_⟩
            · linarith
            · linarith

theorem isTimeoutOf_countedNumber (decimal : Numeral.Decimal) :
    IsTimeoutOf decimal.countedNumber (read decimal.text) := by
  rw [read, Numeral.read?_eq_some_iff.mpr (.finite decimal)]
  exact isTimeoutOf_ofNumeral decimal.sign decimal.significand decimal.countedPower

theorem isTimeoutOf_number {decimal : Numeral.Decimal} (isCounted : decimal.IsCounted) :
    IsTimeoutOf decimal.number (read decimal.text) := by
  rw [← isCounted.countedNumber_eq]
  exact isTimeoutOf_countedNumber decimal

/-- A text is read as the timeout of the number that is written, and refused for what it is if none
is written. The number is the one that is meant, except that exponents past their reach are only
counted in part. -/
theorem timeouts_are_exact (raw : Text) :
    ((∀ numeral, ¬Numeral.IsWritten numeral raw) → read raw = .error (.notANumber raw)) ∧
      (Numeral.IsWritten .notANumber raw → read raw = .error .outOfRange) ∧
      (∀ negative, Numeral.IsWritten (.infinite negative) raw →
        read raw = .error (if negative then .negative else .outOfRange)) ∧
      (∀ decimal : Numeral.Decimal, decimal.text = raw →
        IsTimeoutOf decimal.countedNumber (read raw) ∧
        (decimal.IsCounted → IsTimeoutOf decimal.number (read raw))) := by
  refine ⟨fun none => ?_, fun written => ?_, fun negative written => ?_, fun decimal isRaw => ?_⟩
  · cases isRead : Numeral.read? raw with
    | none => rw [read, isRead]
    | some numeral => exact absurd (Numeral.read?_eq_some_iff.mp isRead) (none numeral)
  · rw [read, Numeral.read?_eq_some_iff.mpr written]
    rfl
  · rw [read, Numeral.read?_eq_some_iff.mpr written]
    rfl
  · rw [← isRaw]
    exact ⟨isTimeoutOf_countedNumber decimal, isTimeoutOf_number⟩

/-- The last whole number of seconds that is accepted. -/
def greatestSeconds : Numeral.Decimal where
  sign := .plus
  whole := "18446744073709550591".toList
  fraction := none
  exponent := none
  areDigits := List.all_eq_true.mp (by decide)
  nonempty := by decide

/-- A digit behind so many zeros that only a great exponent makes up for its place. -/
def distantSeconds (zeros : ℕ) : Numeral.Decimal where
  sign := .absent
  whole := ['0']
  fraction := some (List.replicate zeros '0' ++ ['1'])
  exponent := some
    ⟨'e', .absent, "655360".toList, .inl rfl, List.all_eq_true.mp (by decide), by decide⟩
  areDigits := by
    intro c member
    simp only [List.cons_append, List.nil_append, Option.getD_some, List.mem_cons, List.mem_append,
      List.mem_replicate, List.not_mem_nil, or_false] at member
    rcases member with rfl | ⟨-, rfl⟩ | rfl <;> decide
  nonempty := by simp

theorem distantSeconds_significand (zeros : ℕ) : (distantSeconds zeros).significand = 1 := by
  have value (count : ℕ) : (List.replicate count '0').foldl
      (fun value digit => value * 10 + (digit.toNat - '0'.toNat)) 0 = 0 := by
    induction count with
    | zero => rfl
    | succ count inductionHypothesis => exact inductionHypothesis
  have split : (distantSeconds zeros).significand =
      Text.decimalValue (List.replicate (zeros + 1) '0' ++ ['1']) := rfl
  rw [split, Text.decimalValue, List.foldl_append, value]
  rfl

theorem distantSeconds_places (zeros : ℕ) : (distantSeconds zeros).places = zeros + 1 := by
  simp [Numeral.Decimal.places, distantSeconds]

/-- The exponent is only counted up to its next to last digit. -/
theorem distantSeconds_countedPower (zeros : ℕ) :
    (distantSeconds zeros).countedPower = 65535 - zeros := by
  have counted : (distantSeconds zeros).exponent.elim 0 Numeral.Exponent.counted = 65536 := by
    change ((65536 : ℕ) : ℤ) = 65536
    rfl
  rw [Numeral.Decimal.countedPower, counted, distantSeconds_places]
  push_cast
  ring

theorem distantSeconds_number (zeros : ℕ) :
    (distantSeconds zeros).number = 10 ^ (655359 - zeros : ℤ) := by
  have power : (distantSeconds zeros).exponent.elim 0 Numeral.Exponent.power = 655360 := by
    change ((655360 : ℕ) : ℤ) = 655360
    rfl
  have unsigned (number : ℚ) : (distantSeconds zeros).sign.apply number = number := rfl
  have exponent : (655360 : ℤ) - (zeros + 1 : ℕ) = 655359 - zeros := by omega
  rw [Numeral.Decimal.number, unsigned, distantSeconds_significand, distantSeconds_places, power,
    Nat.cast_one, one_mul, exponent]

/-- The numbers up to the last are accepted, and an exponent past its reach is misread: a number
out of all range passes for one second. -/
theorem distant_seconds_are_misread :
    read "soon".toList = .error (.notANumber "soon".toList) ∧
      read "-NaN".toList = .error .outOfRange ∧
      read "-inf".toList = .error .negative ∧
      (∃ duration, read greatestSeconds.text = .ok duration) ∧
      IsTimeoutOf (distantSeconds 65535).countedNumber (read (distantSeconds 65535).text) ∧
      read (distantSeconds 65535).text = .ok ⟨1, 0, by decide⟩ ∧
      overflowBound ≤ |(distantSeconds 65535).number| := by
  refine ⟨?_, ?_, ?_, ?_, ?_, ?_, ?_⟩
  · refine (timeouts_are_exact _).1 fun numeral written => ?_
    have unread : Numeral.read? "soon".toList = none := by decide
    rw [Numeral.read?_eq_some_iff.mpr written] at unread
    contradiction
  · exact (timeouts_are_exact _).2.1 (.notANumber .minus (by decide))
  · exact (timeouts_are_exact _).2.2.1 true (.infinite .minus (by decide))
  · have counted : greatestSeconds.IsCounted := fun _ none => by contradiction
    have number : greatestSeconds.number = 18446744073709550591 := by
      have significand : greatestSeconds.significand = 18446744073709550591 := by decide +kernel
      have unsigned (number : ℚ) : greatestSeconds.sign.apply number = number := rfl
      rw [Numeral.Decimal.number, unsigned, significand]
      norm_num [greatestSeconds, Numeral.Decimal.places]
    have timeout := ((timeouts_are_exact _).2.2.2 greatestSeconds rfl).2 counted
    rw [number] at timeout
    refine timeout.accepted_iff.mpr ⟨?_, by norm_num⟩
    exact (neg_nonpos.mpr (by positivity)).trans (by norm_num)
  · exact ((timeouts_are_exact _).2.2.2 (distantSeconds 65535) rfl).1
  · rw [read, Numeral.read?_eq_some_iff.mpr (.finite _), distantSeconds_significand,
      distantSeconds_countedPower]
    decide +kernel
  · have power : (655359 : ℤ) - (65535 : ℕ) = (589824 : ℕ) := by norm_num
    rw [distantSeconds_number, power, zpow_natCast, abs_of_pos (by positivity)]
    have past : overflowBound ≤ ((1 : ℕ) : ℚ) * 10 ^ 589824 :=
      overflowBound_le_of_power Nat.one_pos (by decide)
    rwa [Nat.cast_one, one_mul] at past

end Duration

end UploadProbe
