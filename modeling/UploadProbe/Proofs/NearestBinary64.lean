import Mathlib
import UploadProbe.Timeout.Binary64

/-!
# The nearest binary64 number

A binary64 number is a mantissa of at most 53 bits times a power of two within bounds, and each has
one normal form. Of two neighbours one has an even mantissa and the other an odd one, so the number
nearest to any other is unique when a tie goes to the even mantissa.
-/

namespace UploadProbe

/-- Whether a whole number is nearest to another number, a half going to the even neighbour. -/
structure IsNearestWhole (number : ℚ) (whole : ℤ) : Prop where
  distance_le : |number - whole| ≤ 1 / 2
  even_of_half : |number - whole| = 1 / 2 → Even whole

namespace IsNearestWhole

variable {number : ℚ} {whole : ℤ}

/-- Two whole numbers are at least one apart, so one of them is at least a half away. -/
theorem half_le (nearest : IsNearestWhole number whole) {other : ℤ} (different : other ≠ whole) :
    1 / 2 ≤ |number - other| := by
  have apart : (1 : ℚ) ≤ |(whole : ℚ) - other| := by
    have whole_apart : 1 ≤ |whole - other| := Int.one_le_abs (sub_ne_zero.mpr different.symm)
    exact_mod_cast whole_apart
  have through : |(whole : ℚ) - other| ≤ |number - whole| + |number - other| := by
    rw [abs_sub_comm number whole]
    exact abs_sub_le _ _ _
  linarith [nearest.distance_le]

theorem le_distance (nearest : IsNearestWhole number whole) (other : ℤ) :
    |number - whole| ≤ |number - other| := by
  by_cases same : other = whole
  · rw [same]
  · exact nearest.distance_le.trans (nearest.half_le same)

theorem even_of_tie (nearest : IsNearestWhole number whole) {other : ℤ} (different : other ≠ whole)
    (tie : |number - other| = |number - whole|) : Even whole := by
  refine nearest.even_of_half (le_antisymm nearest.distance_le ?_)
  rw [← tie]
  exact nearest.half_le different

end IsNearestWhole

theorem isNearestWhole_roundHalfEven (numerator : ℕ) {denominator : ℕ}
    (positive : 0 < denominator) :
    IsNearestWhole (numerator / denominator) (roundHalfEven numerator denominator : ℕ) := by
  have split : (numerator : ℚ) / denominator =
      (numerator / denominator : ℕ) + (numerator % denominator : ℕ) / (denominator : ℚ) := by
    have nonzero : (denominator : ℚ) ≠ 0 := by positivity
    have divided : ((denominator * (numerator / denominator) + numerator % denominator : ℕ) : ℚ) =
        numerator := by rw [Nat.div_add_mod]
    push_cast at divided
    field_simp
    linarith
  have less : numerator % denominator < denominator := Nat.mod_lt _ positive
  rw [split, roundHalfEven]
  generalize numerator / denominator = quotient
  generalize numerator % denominator = rest at less
  have positive' : (0 : ℚ) < denominator := by exact_mod_cast positive
  have part_nonneg : 0 ≤ (rest : ℚ) / denominator := by positivity
  have part_lt : (rest : ℚ) / denominator < 1 := by
    rw [div_lt_one positive']
    exact_mod_cast less
  split
  next up =>
    have half_le : 1 / 2 ≤ (rest : ℚ) / denominator := by
      rw [div_le_div_iff₀ two_pos positive']
      have : denominator ≤ 2 * rest := by omega
      have : (denominator : ℚ) ≤ 2 * rest := by exact_mod_cast this
      linarith
    have distance : |(quotient : ℚ) + rest / denominator - ((quotient + 1 : ℕ) : ℤ)| =
        1 - rest / denominator := by
      push_cast
      rw [abs_of_nonpos (by linarith)]
      ring
    refine ⟨by rw [distance]; linarith, fun half => ?_⟩
    rw [distance] at half
    have half : (rest : ℚ) / denominator = 1 / 2 := by linarith
    rw [div_eq_div_iff positive'.ne' two_ne_zero] at half
    have half : rest * 2 = 1 * denominator := by exact_mod_cast half
    rcases up with more | ⟨-, odd⟩
    · omega
    · rw [Int.even_coe_nat, Nat.even_add_one, Nat.not_even_iff]
      exact odd
  next down =>
    have le_half : (rest : ℚ) / denominator ≤ 1 / 2 := by
      rw [div_le_div_iff₀ positive' two_pos]
      have : 2 * rest ≤ denominator := by omega
      have : (2 : ℚ) * rest ≤ denominator := by exact_mod_cast this
      linarith
    have distance : |(quotient : ℚ) + rest / denominator - ((quotient : ℕ) : ℤ)| =
        rest / denominator := by
      push_cast
      rw [add_sub_cancel_left, abs_of_nonneg part_nonneg]
    refine ⟨by rw [distance]; exact le_half, fun half => ?_⟩
    rw [distance, div_eq_div_iff positive'.ne' two_ne_zero] at half
    have half : rest * 2 = 1 * denominator := by exact_mod_cast half
    rw [Int.even_coe_nat, Nat.even_iff]
    omega

namespace Binary64

/-- Whether a mantissa and an exponent are the normal form of a binary64 number. -/
structure IsNormal (mantissa exponent : ℤ) : Prop where
  mantissa_lt : |mantissa| < 2 ^ 53
  least_le : -1074 ≤ exponent
  le_greatest : exponent ≤ 971
  /-- A leading zero stands only where the exponent cannot be any smaller. -/
  leads : exponent = -1074 ∨ 2 ^ 52 ≤ |mantissa|

/-- Whether a number is a finite binary64 number. -/
def IsValue (number : ℚ) : Prop :=
  ∃ mantissa exponent : ℤ, IsNormal mantissa exponent ∧ number = mantissa * 2 ^ exponent

/-- Whether a number is a binary64 number with an even mantissa. -/
def IsEvenValue (number : ℚ) : Prop :=
  ∃ mantissa exponent : ℤ, IsNormal mantissa exponent ∧ Even mantissa ∧
    number = mantissa * 2 ^ exponent

/-- From this magnitude on, a number is nearer to the power of two behind the greatest finite
magnitude than to that, or as near and the mantissa of that is odd. -/
def overflowBound : ℚ := 2 ^ (1024 : ℤ) - 2 ^ (970 : ℤ)

/-- Whether a binary64 number is the one nearest to a number, a tie going to the even mantissa. -/
structure IsNearest (number value : ℚ) : Prop where
  inRange : |number| < overflowBound
  isValue : IsValue value
  le_distance : ∀ other, IsValue other → |number - value| ≤ |number - other|
  even_of_tie : ∀ other, IsValue other → other ≠ value →
    |number - other| = |number - value| → IsEvenValue value

/-- A number of a smaller exponent than a normal one's lies below it. -/
theorem IsNormal.lt_of_exponent_lt {mantissa exponent other less : ℤ}
    (normal : IsNormal mantissa exponent) (otherNormal : IsNormal other less)
    (exponentLess : less < exponent) :
    |(other : ℚ) * 2 ^ less| < |(mantissa : ℚ) * 2 ^ exponent| := by
  have leads : (2 : ℚ) ^ 52 ≤ |(mantissa : ℚ)| := by
    have leads := normal.leads.resolve_left (by have := otherNormal.least_le; omega)
    exact_mod_cast leads
  have small : |(other : ℚ)| < 2 ^ 53 := by exact_mod_cast otherNormal.mantissa_lt
  have doubled : (2 : ℚ) * 2 ^ less ≤ 2 ^ exponent := by
    rw [← zpow_one_add₀ two_ne_zero]
    exact zpow_le_zpow_right₀ one_le_two (by omega)
  have positive : (0 : ℚ) < 2 ^ less := by positivity
  rw [abs_mul, abs_mul, abs_of_pos positive, abs_of_pos (by positivity : (0 : ℚ) < 2 ^ exponent)]
  calc |(other : ℚ)| * 2 ^ less < 2 ^ 53 * 2 ^ less := by gcongr
    _ = 2 ^ 52 * (2 * 2 ^ less) := by ring
    _ ≤ |(mantissa : ℚ)| * 2 ^ exponent := by gcongr

/-- A binary64 number has one normal form. -/
theorem IsNormal.unique {mantissa exponent other otherExponent : ℤ}
    (normal : IsNormal mantissa exponent) (otherNormal : IsNormal other otherExponent)
    (same : (mantissa : ℚ) * 2 ^ exponent = other * 2 ^ otherExponent) :
    mantissa = other ∧ exponent = otherExponent := by
  rcases lt_trichotomy exponent otherExponent with less | equal | greater
  · have := otherNormal.lt_of_exponent_lt normal less
    rw [same] at this
    exact absurd this (lt_irrefl _)
  · subst equal
    have positive : (2 : ℚ) ^ exponent ≠ 0 := by positivity
    exact ⟨by exact_mod_cast mul_right_cancel₀ positive same, rfl⟩
  · have := normal.lt_of_exponent_lt otherNormal greater
    rw [same] at this
    exact absurd this (lt_irrefl _)

/-- A number with an odd mantissa has no even one. -/
theorem IsNormal.not_isEvenValue {mantissa exponent : ℤ} (normal : IsNormal mantissa exponent)
    (odd : ¬Even mantissa) : ¬IsEvenValue (mantissa * 2 ^ exponent) := by
  rintro ⟨other, otherExponent, otherNormal, even, same⟩
  rw [(normal.unique otherNormal same).1] at odd
  exact odd even

theorem IsNormal.neg {mantissa exponent : ℤ} (normal : IsNormal mantissa exponent) :
    IsNormal (-mantissa) exponent where
  mantissa_lt := by rw [abs_neg]; exact normal.mantissa_lt
  least_le := normal.least_le
  le_greatest := normal.le_greatest
  leads := by rw [abs_neg]; exact normal.leads

theorem IsValue.neg {number : ℚ} (isValue : IsValue number) : IsValue (-number) := by
  rcases isValue with ⟨mantissa, exponent, normal, rfl⟩
  exact ⟨-mantissa, exponent, normal.neg, by push_cast; ring⟩

theorem IsEvenValue.neg {number : ℚ} (isEven : IsEvenValue number) : IsEvenValue (-number) := by
  rcases isEven with ⟨mantissa, exponent, normal, even, rfl⟩
  exact ⟨-mantissa, exponent, normal.neg, even.neg, by push_cast; ring⟩

theorem isValue_zero : IsValue 0 :=
  ⟨0, -1074, ⟨by norm_num, le_rfl, by norm_num, .inl rfl⟩, by simp⟩

/-- Behind a number that is not negative, the next one is a step of its exponent away. -/
theorem IsNormal.step_le {mantissa exponent : ℤ} (normal : IsNormal mantissa exponent)
    (nonneg : 0 ≤ mantissa) {other : ℚ} (isValue : IsValue other)
    (greater : (mantissa : ℚ) * 2 ^ exponent < other) :
    ((mantissa + 1 : ℤ) : ℚ) * 2 ^ exponent ≤ other := by
  rcases isValue with ⟨further, otherExponent, otherNormal, rfl⟩
  have positive : (0 : ℚ) < 2 ^ exponent := by positivity
  have whole : 0 ≤ (mantissa : ℚ) * 2 ^ exponent := by positivity
  by_cases less : otherExponent < exponent
  · have below := normal.lt_of_exponent_lt otherNormal less
    rw [abs_of_nonneg (whole.trans greater.le), abs_of_nonneg whole] at below
    exact absurd greater (not_lt.mpr below.le)
  · obtain ⟨steps, rfl⟩ : ∃ steps : ℕ, otherExponent = exponent + steps :=
      ⟨(otherExponent - exponent).toNat, by omega⟩
    rw [zpow_add₀ two_ne_zero, mul_comm ((2 : ℚ) ^ exponent), ← mul_assoc, zpow_natCast]
      at greater ⊢
    have greater : (mantissa : ℚ) < further * 2 ^ steps :=
      lt_of_mul_lt_mul_right greater positive.le
    have greater : mantissa < further * 2 ^ steps := by exact_mod_cast greater
    have step : ((mantissa + 1 : ℤ) : ℚ) ≤ further * 2 ^ steps := by exact_mod_cast greater
    gcongr

/-- A binary64 number is the one nearest to itself. -/
theorem IsValue.isNearest {number : ℚ} (isValue : IsValue number)
    (inRange : |number| < overflowBound) : IsNearest number number where
  inRange := inRange
  isValue := isValue
  le_distance other _ := by
    rw [sub_self, abs_zero]
    exact abs_nonneg _
  even_of_tie other _ different tie := by
    rw [sub_self, abs_zero, abs_eq_zero, sub_eq_zero] at tie
    exact absurd tie.symm different

theorem IsNearest.neg {number value : ℚ} (nearest : IsNearest number value) :
    IsNearest (-number) (-value) := by
  have mirrored (other : ℚ) : |-number - other| = |number - -other| := by
    rw [← abs_neg]
    congr 1
    ring
  refine ⟨by rw [abs_neg]; exact nearest.inRange, nearest.isValue.neg, ?_, ?_⟩
  · intro other isValue
    rw [mirrored, mirrored, neg_neg]
    exact nearest.le_distance (-other) isValue.neg
  · intro other isValue different tie
    rw [mirrored, mirrored, neg_neg] at tie
    refine (nearest.even_of_tie (-other) isValue.neg ?_ tie).neg
    rintro rfl
    exact different (neg_neg other).symm

theorem IsNearest.nonneg {number value : ℚ} (nearest : IsNearest number value)
    (nonneg : 0 ≤ number) : 0 ≤ value := by
  by_contra negative
  have closer := nearest.le_distance 0 isValue_zero
  rw [sub_zero, abs_of_nonneg nonneg, abs_of_nonneg (by linarith)] at closer
  linarith

/-- No two numbers are nearest to one: half way between neighbours, just one mantissa is even. -/
theorem IsNearest.le_other {number value other : ℚ} (nearest : IsNearest number value)
    (otherNearest : IsNearest number other) (nonneg : 0 ≤ number) : other ≤ value := by
  by_contra greater
  have less : value < other := not_le.mp greater
  have tie : |number - other| = |number - value| :=
    le_antisymm (otherNearest.le_distance _ nearest.isValue)
      (nearest.le_distance _ otherNearest.isValue)
  have middle : number - value = other - number := by
    rcases abs_eq_abs.mp tie with same | mirrored
    · linarith
    · linarith
  have inside : ∀ between, IsValue between → value < between → ¬between < other := by
    intro between isValue above below
    have closer := nearest.le_distance between isValue
    rw [abs_of_nonneg (by linarith : 0 ≤ number - value)] at closer
    rcases le_abs'.mp closer with left | right <;> linarith
  obtain ⟨mantissa, exponent, normal, even, rfl⟩ :=
    nearest.even_of_tie other otherNearest.isValue less.ne' tie
  have mantissa_nonneg : 0 ≤ mantissa := by
    have value_nonneg := nearest.nonneg nonneg
    have positive : (0 : ℚ) < 2 ^ exponent := by positivity
    exact_mod_cast nonneg_of_mul_nonneg_left value_nonneg positive
  have mantissa_lt := normal.mantissa_lt
  rw [abs_of_nonneg mantissa_nonneg] at mantissa_lt
  have leads := normal.leads
  rw [abs_of_nonneg mantissa_nonneg] at leads
  have nextNormal : IsNormal (mantissa + 1) exponent := by
    refine ⟨?_, normal.least_le, normal.le_greatest, leads.imp_right fun leads => ?_⟩
    · rw [abs_of_nonneg (by omega)]
      obtain ⟨half, rfl⟩ := even
      omega
    · rw [abs_of_nonneg (by omega)]
      omega
  have positive : (0 : ℚ) < 2 ^ exponent := by positivity
  have next_le := normal.step_le mantissa_nonneg otherNearest.isValue less
  have isNext : ((mantissa + 1 : ℤ) : ℚ) * 2 ^ exponent = other := by
    refine le_antisymm next_le (not_lt.mp (inside _ ⟨_, _, nextNormal, rfl⟩ ?_))
    push_cast
    linarith
  refine nextNormal.not_isEvenValue ?_ ?_
  · rw [Int.even_add_one, not_not]
    exact even
  · rw [isNext]
    exact otherNearest.even_of_tie _ nearest.isValue less.ne tie.symm

theorem IsNearest.unique {number value other : ℚ} (nearest : IsNearest number value)
    (otherNearest : IsNearest number other) : value = other := by
  rcases le_total 0 number with nonneg | nonpos
  · exact le_antisymm (otherNearest.le_other nearest nonneg) (nearest.le_other otherNearest nonneg)
  · have mirrored : 0 ≤ -number := by linarith
    have above := otherNearest.neg.le_other nearest.neg mirrored
    have below := nearest.neg.le_other otherNearest.neg mirrored
    linarith

/-- Half way between two neighbours a number goes to the upper one if the lower one is odd. -/
theorem IsNearest.upper_le_iff {number value lower upper : ℚ} (nearest : IsNearest number value)
    (isLower : IsValue lower) (isUpper : IsValue upper) (less : lower < upper)
    (neighbours : ∀ other, IsValue other → lower < other → upper ≤ other)
    (odd : ¬IsEvenValue lower) : upper ≤ value ↔ (lower + upper) / 2 ≤ number := by
  have toLower := nearest.le_distance lower isLower
  have toUpper := nearest.le_distance upper isUpper
  constructor
  · intro above
    by_contra below
    rw [abs_of_nonpos (by linarith : number - value ≤ 0)] at toLower
    rcases le_abs'.mp toLower with left | right <;> linarith
  · intro above
    by_contra below
    have le_lower : value ≤ lower := by
      by_contra greater
      exact below (neighbours value nearest.isValue (not_le.mp greater))
    rw [abs_of_nonneg (by linarith : 0 ≤ number - value)] at toUpper
    have middle : number - value ≤ upper - number := by
      rcases le_abs'.mp toUpper with left | right
      · linarith
      · linarith
    have isLowest : value = lower := by linarith
    refine odd (isLowest ▸ nearest.even_of_tie upper isUpper (by linarith) ?_)
    rw [abs_of_nonpos (by linarith), abs_of_nonneg (by linarith)]
    linarith

end Binary64

end UploadProbe
