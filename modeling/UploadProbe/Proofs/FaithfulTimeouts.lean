import UploadProbe.Proofs.WholeSeconds

/-!
# Timeouts that come back as they are written

Both roundings keep the order of numbers, so a greater number of seconds is never a shorter timeout.
Below `2 ^ 23` seconds a binary64 number is so near to what is written that the second rounding
undoes the first: seconds with nine digits behind the point come back to the nanosecond.
-/

namespace UploadProbe

/-- Of two numbers, the lesser one is not nearer to the greater of two candidates. -/
theorem candidate_le_of_nearer {lesser greater candidate other : ℚ} (less : lesser < greater)
    (near : |lesser - candidate| ≤ |lesser - other|)
    (otherNear : |greater - other| ≤ |greater - candidate|) : candidate ≤ other := by
  by_contra above
  have fromMiddle : candidate + other ≤ 2 * lesser := by
    by_contra below
    rw [abs_of_nonpos (by linarith : lesser - candidate ≤ 0)] at near
    rcases le_abs'.mp near with left | right <;> linarith
  have toMiddle : 2 * greater ≤ candidate + other := by
    by_contra beyond
    rw [abs_of_nonneg (by linarith : 0 ≤ greater - other)] at otherNear
    rcases le_abs'.mp otherNear with left | right <;> linarith
  linarith

namespace IsNearestWhole

variable {number other : ℚ} {whole otherWhole : ℤ}

/-- Half way between two whole numbers only one of them is even. -/
theorem unique (nearest : IsNearestWhole number whole)
    (otherNearest : IsNearestWhole number otherWhole) : whole = otherWhole := by
  by_contra different
  have half := le_antisymm nearest.distance_le (otherNearest.half_le different)
  have otherHalf := le_antisymm otherNearest.distance_le (nearest.half_le (Ne.symm different))
  have apart : |(whole : ℚ) - otherWhole| ≤ 1 := by
    have through := abs_sub_le (whole : ℚ) number otherWhole
    rw [abs_sub_comm (whole : ℚ) number, half, otherHalf] at through
    linarith
  have apart : |whole - otherWhole| ≤ 1 := by exact_mod_cast apart
  obtain ⟨step, isDouble⟩ := (nearest.even_of_half half).sub (otherNearest.even_of_half otherHalf)
  have bounds := abs_le.mp apart
  omega

theorem mono (nearest : IsNearestWhole number whole)
    (otherNearest : IsNearestWhole other otherWhole) (le : number ≤ other) :
    whole ≤ otherWhole := by
  rcases le.lt_or_eq with less | rfl
  · have ordered := candidate_le_of_nearer less (nearest.le_distance otherWhole)
      (otherNearest.le_distance whole)
    exact_mod_cast ordered
  · exact (nearest.unique otherNearest).le

/-- A whole number that is nearer than a half is the nearest one. -/
theorem eq_of_distance_lt (nearest : IsNearestWhole number whole)
    (near : |number - otherWhole| < 1 / 2) : whole = otherWhole := by
  by_contra different
  exact absurd (nearest.half_le (Ne.symm different)) (not_le.mpr near)

end IsNearestWhole

theorem exists_ratio {number : ℚ} (nonneg : 0 ≤ number) :
    ∃ numerator denominator : ℕ, 0 < denominator ∧ (numerator : ℚ) / denominator = number := by
  have numerator : ((number.num.toNat : ℕ) : ℚ) = number.num := by
    exact_mod_cast Int.toNat_of_nonneg (Rat.num_nonneg.mpr nonneg)
  refine ⟨number.num.toNat, number.den, number.den_pos, ?_⟩
  rw [numerator, Rat.num_div_den]

theorem exists_isNearestWhole {number : ℚ} (nonneg : 0 ≤ number) :
    ∃ whole, IsNearestWhole number whole := by
  obtain ⟨numerator, denominator, positive, rfl⟩ := exists_ratio nonneg
  exact ⟨_, isNearestWhole_roundHalfEven numerator positive⟩

namespace Binary64

theorem IsNearest.mono {number other value otherValue : ℚ} (nearest : IsNearest number value)
    (otherNearest : IsNearest other otherValue) (le : number ≤ other) : value ≤ otherValue := by
  rcases le.lt_or_eq with less | rfl
  · exact candidate_le_of_nearer less (nearest.le_distance _ otherNearest.isValue)
      (otherNearest.le_distance _ nearest.isValue)
  · exact (nearest.unique otherNearest).le

/-- Every positive number has a scale. -/
theorem exists_scales {number : ℚ} (positive : 0 < number) :
    ∃ exponent, Scales number exponent := by
  obtain ⟨numerator, denominator, denominatorPositive, rfl⟩ := exists_ratio positive.le
  have numeratorPositive : 0 < numerator := by
    rw [Nat.pos_iff_ne_zero]
    rintro rfl
    simp at positive
  exact ⟨_, scales_ofRatio numeratorPositive denominatorPositive⟩

/-- The nearest binary64 number is at most half a step of the scale away. -/
theorem IsNearest.distance_le {number value : ℚ} {exponent : ℤ} (nearest : IsNearest number value)
    (scales : Scales number exponent) (fits : exponent < 971) :
    |number - value| ≤ 2 ^ exponent * (1 / 2) := by
  have positive : (0 : ℚ) < 2 ^ exponent := by positivity
  obtain ⟨mantissa, rounded⟩ := exists_isNearestWhole (div_nonneg scales.nonneg positive.le)
  have notExceeds : ¬Scales.Exceeds exponent mantissa := by
    rw [Scales.Exceeds]
    omega
  calc |number - value| ≤ |number - mantissa * 2 ^ exponent| :=
        nearest.le_distance _ (scales.isValue rounded notExceeds).1
    _ = 2 ^ exponent * |number / 2 ^ exponent - mantissa| :=
        Scales.distance_scaled number exponent mantissa
    _ ≤ 2 ^ exponent * (1 / 2) := mul_le_mul_of_nonneg_left rounded.distance_le positive.le

/-- A number below `2 ^ 23` has 30 bits behind the point at least. -/
theorem IsNearest.distance_le_of_lt {number value : ℚ} (nearest : IsNearest number value)
    (nonneg : 0 ≤ number) (small : number < 2 ^ 23) : |number - value| ≤ 2 ^ (-31 : ℤ) := by
  rcases nonneg.lt_or_eq with positive | rfl
  · obtain ⟨exponent, scales⟩ := exists_scales positive
    have bounded : exponent ≤ -30 := by
      rcases scales.leads with least | leads
      · omega
      · have less : (2 : ℚ) ^ (52 + exponent) < 2 ^ (23 : ℤ) := by
          rw [← pow_mul_zpow (52 + exponent) rfl]
          exact leads.trans_lt small
        have less := (zpow_lt_zpow_iff_right₀ one_lt_two).mp less
        omega
    calc |number - value| ≤ 2 ^ exponent * (1 / 2) := nearest.distance_le scales (by omega)
      _ ≤ 2 ^ (-30 : ℤ) * (1 / 2) := by
        gcongr
        norm_num
      _ = 2 ^ (-31 : ℤ) := by norm_num
  · calc |0 - value| ≤ |0 - 0| := nearest.le_distance 0 isValue_zero
      _ = 0 := by rw [sub_zero, abs_zero]
      _ ≤ 2 ^ (-31 : ℤ) := by positivity

end Binary64

namespace Text

/-- A number below `10 ^ width` in exactly `width` decimal digits. -/
def decimalWord : (width : ℕ) → (number : ℕ) → Text
  | 0, _ => []
  | width + 1, number => decimalWord width (number / 10) ++ [Nat.digitChar (number % 10)]

@[simp]
theorem length_decimalWord (width number : ℕ) : (decimalWord width number).length = width := by
  induction width generalizing number with
  | zero => rfl
  | succ width inductionHypothesis => simp [decimalWord, inductionHypothesis]

theorem isDigit_of_mem_decimalWord {width number : ℕ} {c : Char}
    (member : c ∈ decimalWord width number) : c.isDigit = true := by
  have digits : ∀ digit < 10, (Nat.digitChar digit).isDigit = true := by decide
  induction width generalizing number with
  | zero => simp [decimalWord] at member
  | succ width inductionHypothesis =>
      rcases List.mem_append.mp member with front | last
      · exact inductionHypothesis front
      · rw [List.mem_singleton.mp last]
        exact digits _ (Nat.mod_lt _ (by decide))

/-- The digits of a number are read onto what stands before them. -/
theorem decimalValue_append_decimalWord (front : Text) {width number : ℕ}
    (small : number < 10 ^ width) :
    decimalValue (front ++ decimalWord width number) =
      decimalValue front * 10 ^ width + number := by
  have digits : ∀ digit < 10, (Nat.digitChar digit).toNat - '0'.toNat = digit := by decide
  induction width generalizing number with
  | zero =>
      obtain rfl : number = 0 := by omega
      simp [decimalWord]
  | succ width inductionHypothesis =>
      have fewer : number / 10 < 10 ^ width := by
        rw [pow_succ] at small
        omega
      have last := digits _ (Nat.mod_lt number (by decide))
      have split : decimalValue (front ++ decimalWord (width + 1) number) =
          decimalValue (front ++ decimalWord width (number / 10)) * 10 + number % 10 := by
        rw [decimalValue, decimalWord, ← List.append_assoc, List.foldl_append, List.foldl_cons,
          List.foldl_nil, last]
        rfl
      rw [split, inductionHypothesis fewer, pow_succ]
      have divided := Nat.div_add_mod number 10
      linarith

end Text

namespace Numeral

/-- Seconds as they are written with nine digits behind the point. -/
def Decimal.ofSeconds (seconds nanoseconds : ℕ) : Decimal where
  sign := .absent
  whole := Text.ofNat seconds
  fraction := some (Text.decimalWord 9 nanoseconds)
  exponent := none
  areDigits := by
    intro c member
    rcases List.mem_append.mp member with inWhole | inFraction
    · exact Text.isDigit_of_mem_ofNat inWhole
    · exact Text.isDigit_of_mem_decimalWord inFraction
  nonempty := by simp [Text.ofNat_ne_nil]

theorem Decimal.text_ofSeconds (seconds nanoseconds : ℕ) :
    (ofSeconds seconds nanoseconds).text =
      Text.ofNat seconds ++ '.' :: Text.decimalWord 9 nanoseconds := by
  simp [ofSeconds, text, unsigned, Sign.text]

theorem Decimal.isCounted_ofSeconds (seconds nanoseconds : ℕ) :
    (ofSeconds seconds nanoseconds).IsCounted := by
  intro exponent none
  contradiction

theorem Decimal.number_ofSeconds (seconds : ℕ) {nanoseconds : ℕ}
    (small : nanoseconds < 1000000000) :
    (ofSeconds seconds nanoseconds).number = (seconds * 10 ^ 9 + nanoseconds : ℕ) / 10 ^ 9 := by
  have significand : (ofSeconds seconds nanoseconds).significand =
      seconds * 10 ^ 9 + nanoseconds := by
    have small : nanoseconds < 10 ^ 9 := small.trans_eq (by norm_num)
    rw [Decimal.significand, ofSeconds, Option.getD_some,
      Text.decimalValue_append_decimalWord _ small, Text.decimalValue_ofNat]
  have power : (ofSeconds seconds nanoseconds).exponent.elim 0 Exponent.power -
      (ofSeconds seconds nanoseconds).places = -9 := by
    simp [ofSeconds, places]
  have unsigned (number : ℚ) : (ofSeconds seconds nanoseconds).sign.apply number = number := rfl
  rw [Decimal.number, unsigned, significand, power, zpow_neg, div_eq_mul_inv]
  rfl

end Numeral

namespace Duration

open Binary64

/-- Of two durations the one with fewer seconds is the shorter one, and of two with as many the one
with fewer nanoseconds. -/
instance : LE Duration where
  le left right := left.seconds < right.seconds ∨
    (left.seconds = right.seconds ∧ left.nanoseconds ≤ right.nanoseconds)

theorem le_iff {left right : Duration} :
    left ≤ right ↔ left.toNanoseconds ≤ right.toNanoseconds := by
  change left.seconds < right.seconds ∨ _ ↔ _
  have leftPart := left.nanoseconds_lt
  have rightPart := right.nanoseconds_lt
  simp only [toNanoseconds, nanosecondsPerSecond]
  omega

theorem toNanoseconds_injective : Function.Injective toNanoseconds := by
  rintro ⟨seconds, part, part_lt⟩ ⟨otherSeconds, otherPart, otherPart_lt⟩ same
  simp only [toNanoseconds, nanosecondsPerSecond] at same
  obtain rfl : part = otherPart := by omega
  obtain rfl : seconds = otherSeconds := by omega
  rfl

/-- A timeout is its number rounded twice. -/
theorem IsTimeoutOf.rounded {number : ℚ} {duration : Duration}
    (timeout : IsTimeoutOf number (.ok duration)) :
    ∃ value, IsNearest number value ∧ IsNearestWhole (value * 10 ^ 9) duration.toNanoseconds := by
  have inRange : |number| < overflowBound := by
    by_contra past
    have refused := timeout.infinite (not_lt.mp past)
    contradiction
  obtain ⟨value, nearest, -, converts⟩ := timeout.finite inRange
  obtain ⟨nonneg, less⟩ := converts.accepted_iff.mp ⟨duration, rfl⟩
  obtain ⟨accepted, same, rounded, -⟩ := converts.accepted nonneg less
  cases same
  exact ⟨value, nearest, rounded⟩

theorem IsTimeoutOf.mono {number other : ℚ} {shorter longer : Duration}
    (timeout : IsTimeoutOf number (.ok shorter)) (otherTimeout : IsTimeoutOf other (.ok longer))
    (le : number ≤ other) : shorter ≤ longer := by
  obtain ⟨value, nearest, rounded⟩ := timeout.rounded
  obtain ⟨otherValue, otherNearest, otherRounded⟩ := otherTimeout.rounded
  have values := nearest.mono otherNearest le
  have scaled : value * 10 ^ 9 ≤ otherValue * 10 ^ 9 := by gcongr
  have totals := rounded.mono otherRounded scaled
  exact le_iff.mpr (by exact_mod_cast totals)

/-- The first rounding moves a number of nanoseconds by less than half of one, so the second one
moves it back. -/
theorem IsTimeoutOf.toNanoseconds_eq {total : ℕ} {duration : Duration}
    (small : total < 2 ^ 23 * 10 ^ 9)
    (timeout : IsTimeoutOf ((total : ℚ) / 10 ^ 9) (.ok duration)) :
    duration.toNanoseconds = total := by
  obtain ⟨value, nearest, rounded⟩ := timeout.rounded
  have below : (total : ℚ) / 10 ^ 9 < 2 ^ 23 := by
    rw [div_lt_iff₀ (by positivity)]
    exact_mod_cast small
  have distance := nearest.distance_le_of_lt (by positivity) below
  have scaled : value * 10 ^ 9 - ((total : ℤ) : ℚ) = -((total / 10 ^ 9 - value) * 10 ^ 9) := by
    push_cast
    ring
  have near : |value * 10 ^ 9 - ((total : ℤ) : ℚ)| < 1 / 2 := by
    rw [scaled, abs_neg, abs_mul, abs_of_pos (by positivity : (0 : ℚ) < 10 ^ 9)]
    calc |(total : ℚ) / 10 ^ 9 - value| * 10 ^ 9 ≤ 2 ^ (-31 : ℤ) * 10 ^ 9 := by gcongr
      _ < 1 / 2 := by norm_num
  exact_mod_cast rounded.eq_of_distance_lt near

/-- A timeout below `2 ^ 23` seconds is read to the nanosecond. -/
theorem read_ofSeconds {seconds nanoseconds : ℕ} (secondsSmall : seconds < 2 ^ 23)
    (small : nanoseconds < 1000000000) :
    read (Text.ofNat seconds ++ '.' :: Text.decimalWord 9 nanoseconds) =
      .ok ⟨seconds, nanoseconds, small⟩ := by
  have timeout := isTimeoutOf_number (Numeral.Decimal.isCounted_ofSeconds seconds nanoseconds)
  rw [Numeral.Decimal.text_ofSeconds, Numeral.Decimal.number_ofSeconds seconds small] at timeout
  have total : seconds * 10 ^ 9 + nanoseconds < 2 ^ 23 * 10 ^ 9 := by omega
  have nonneg : (0 : ℚ) ≤ (seconds * 10 ^ 9 + nanoseconds : ℕ) / 10 ^ 9 :=
    div_nonneg (Nat.cast_nonneg _) (by positivity)
  have acceptable : ((seconds * 10 ^ 9 + nanoseconds : ℕ) : ℚ) / 10 ^ 9 < 2 ^ 64 - 1024 := by
    have below : ((seconds * 10 ^ 9 + nanoseconds : ℕ) : ℚ) < 2 ^ 23 * 10 ^ 9 := by
      exact_mod_cast total
    rw [div_lt_iff₀ (by positivity)]
    linarith
  have least : -(2 : ℚ) ^ (-1075 : ℤ) ≤ 0 := neg_nonpos.mpr (by positivity)
  obtain ⟨duration, accepted⟩ := timeout.accepted_iff.mpr ⟨least.trans nonneg, acceptable⟩
  rw [accepted] at timeout ⊢
  congr 1
  exact toNanoseconds_injective (timeout.toNanoseconds_eq total)

/-- Whatever is accepted as a timeout is written as a decimal number. -/
theorem exists_decimal_of_accepted {raw : Text} {duration : Duration}
    (accepted : read raw = .ok duration) : ∃ decimal : Numeral.Decimal, decimal.text = raw := by
  rw [read] at accepted
  cases isRead : Numeral.read? raw with
  | none => simp [isRead] at accepted
  | some numeral =>
      rw [isRead] at accepted
      cases Numeral.read?_eq_some_iff.mp isRead with
      | infinite sign isWord => contradiction
      | notANumber sign isWord => contradiction
      | finite decimal => exact ⟨decimal, rfl⟩

/-- Seconds below `2 ^ 23` with nine digits behind the point come back to the nanosecond, and whole
seconds up to `2 ^ 53` come back as they are. Every accepted text is a decimal number, and of two of
them the lesser one is not the longer timeout, as far as their exponents are counted. -/
theorem timeouts_come_back_in_order (seconds nanoseconds : ℕ) (raw : Text)
    (lesser greater : Numeral.Decimal) :
    (seconds < 2 ^ 23 → ∀ small : nanoseconds < 1000000000,
      read (Text.ofNat seconds ++ '.' :: Text.decimalWord 9 nanoseconds) =
        .ok ⟨seconds, nanoseconds, small⟩) ∧
    (seconds ≤ 2 ^ 53 → read (Text.ofNat seconds) = .ok (ofWholeSeconds seconds)) ∧
    (∀ duration, read raw = .ok duration → ∃ decimal : Numeral.Decimal, decimal.text = raw) ∧
    ∀ shorter longer, read lesser.text = .ok shorter → read greater.text = .ok longer →
      (lesser.countedNumber ≤ greater.countedNumber → shorter ≤ longer) ∧
      (lesser.IsCounted → greater.IsCounted → lesser.number ≤ greater.number →
        shorter ≤ longer) := by
  refine ⟨read_ofSeconds, read_ofNat, fun duration => exists_decimal_of_accepted, ?_⟩
  intro shorter longer accepted otherAccepted
  have timeout := isTimeoutOf_countedNumber lesser
  have otherTimeout := isTimeoutOf_countedNumber greater
  rw [accepted] at timeout
  rw [otherAccepted] at otherTimeout
  refine ⟨timeout.mono otherTimeout, fun isCounted otherIsCounted le => ?_⟩
  rw [← isCounted.countedNumber_eq, ← otherIsCounted.countedNumber_eq] at le
  exact timeout.mono otherTimeout le

/-- Just below the bound the last nanosecond comes back. But a second that is written with a greater
exponent than is counted passes for none at all, so it is shorter than a second. -/
theorem distant_second_passes_for_none :
    (8388607 < 2 ^ 23 ∧
      read "8388607.999999999".toList = .ok ⟨8388607, 999999999, by decide⟩) ∧
    ((distantSeconds 655359).countedNumber ≤ (Numeral.Decimal.ofNat 1).countedNumber ∧
      (⟨0, 0, by decide⟩ : Duration) ≤ ⟨1, 0, by decide⟩) ∧
    (Numeral.Decimal.ofNat 1).number ≤ (distantSeconds 655359).number ∧
    read (Numeral.Decimal.ofNat 1).text = .ok ⟨1, 0, by decide⟩ ∧
    read (distantSeconds 655359).text = .ok ⟨0, 0, by decide⟩ ∧
    ¬(⟨1, 0, by decide⟩ : Duration) ≤ ⟨0, 0, by decide⟩ := by
  have faithful (seconds : ℕ) := timeouts_come_back_in_order seconds 999999999 []
    (distantSeconds 655359) (Numeral.Decimal.ofNat 1)
  have whole : read (Numeral.Decimal.ofNat 1).text = .ok ⟨1, 0, by decide⟩ := by
    rw [Numeral.Decimal.text_ofNat]
    exact (faithful 1).2.1 (by norm_num)
  have distant : read (distantSeconds 655359).text = .ok ⟨0, 0, by decide⟩ := by
    rw [read, Numeral.read?_eq_some_iff.mpr (.finite _), distantSeconds_significand,
      distantSeconds_countedPower]
    decide +kernel
  have counted : (distantSeconds 655359).countedNumber ≤
      (Numeral.Decimal.ofNat 1).countedNumber := by
    have unsigned (number : ℚ) : (distantSeconds 655359).sign.apply number = number := rfl
    rw [(Numeral.Decimal.isCounted_ofNat 1).countedNumber_eq, Numeral.Decimal.number_ofNat,
      Numeral.Decimal.countedNumber, unsigned, distantSeconds_significand,
      distantSeconds_countedPower, Nat.cast_one, one_mul]
    exact zpow_le_one_of_nonpos₀ (by norm_num) (by norm_num)
  refine ⟨⟨by norm_num, ?_⟩, ⟨counted, ?_⟩, ?_, whole, distant, ?_⟩
  · exact (faithful 8388607).1 (by norm_num) (by decide)
  · exact ((faithful 1).2.2.2 _ _ distant whole).1 counted
  · rw [Numeral.Decimal.number_ofNat, distantSeconds_number]
    norm_num
  · rw [le_iff]
    decide

end Duration

end UploadProbe
