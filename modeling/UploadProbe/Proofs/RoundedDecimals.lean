import UploadProbe.Proofs.NearestBinary64

/-!
# Decimal numbers as binary64 numbers

A decimal number is scaled by the power of two that leaves a mantissa of 53 bits, or of fewer where
the exponent would be too small, and rounded to a whole number. What comes of that is the nearest
binary64 number, a tie going to the even mantissa, and it is infinite exactly from the bound on that
lies half a step behind the greatest finite magnitude.
-/

namespace UploadProbe

namespace Binary64

theorem pow_mul_zpow {bits : ℕ} {exponent : ℤ} (sum : ℤ) (isSum : bits + exponent = sum) :
    (2 : ℚ) ^ bits * 2 ^ exponent = 2 ^ sum := by
  rw [← isSum, zpow_add₀ two_ne_zero, zpow_natCast]

/-- The bound lies half a step behind the greatest finite magnitude. -/
theorem overflowBound_eq : overflowBound = (2 ^ 53 - 1 / 2) * 2 ^ (971 : ℤ) := by
  have step : (2 : ℚ) ^ 1 * 2 ^ (970 : ℤ) = 2 ^ (971 : ℤ) := pow_mul_zpow _ (by norm_num)
  have power : (2 : ℚ) ^ 54 * 2 ^ (970 : ℤ) = 2 ^ (1024 : ℤ) := pow_mul_zpow _ (by norm_num)
  rw [overflowBound, ← step, ← power]
  generalize (2 : ℚ) ^ (970 : ℤ) = halfStep
  ring

theorem overflowBound_le_power : overflowBound ≤ 2 ^ (1024 : ℤ) :=
  sub_le_self _ (by positivity)

theorem power_le_overflowBound : (2 : ℚ) ^ (1023 : ℤ) ≤ overflowBound := by
  have power : (2 : ℚ) ^ 52 * 2 ^ (971 : ℤ) = 2 ^ (1023 : ℤ) := pow_mul_zpow _ (by norm_num)
  rw [overflowBound_eq, ← power]
  gcongr
  norm_num

/-- What a number is scaled by before it is rounded to a mantissa: a power of two within the bounds
of exponents, by which the mantissa has its leading bit where the exponent is not the least. -/
structure Scales (number : ℚ) (exponent : ℤ) : Prop where
  least_le : -1074 ≤ exponent
  nonneg : 0 ≤ number
  lt : number < 2 ^ 53 * 2 ^ exponent
  leads : exponent = -1074 ∨ 2 ^ 52 * 2 ^ exponent ≤ number

namespace Scales

variable {number : ℚ} {exponent mantissa : ℤ}

theorem mantissa_le (scales : Scales number exponent)
    (nearest : IsNearestWhole (number / 2 ^ exponent) mantissa) : mantissa ≤ 2 ^ 53 := by
  have positive : (0 : ℚ) < 2 ^ exponent := by positivity
  have below : number / 2 ^ exponent < 2 ^ 53 := (div_lt_iff₀ positive).mpr scales.lt
  have near := (abs_le.mp nearest.distance_le).1
  have lt : (mantissa : ℚ) < 2 ^ 53 + 1 := by linarith
  have lt : mantissa < 2 ^ 53 + 1 := by exact_mod_cast lt
  omega

theorem leads_mantissa (scales : Scales number exponent)
    (nearest : IsNearestWhole (number / 2 ^ exponent) mantissa) :
    0 ≤ mantissa ∧ (exponent = -1074 ∨ 2 ^ 52 ≤ mantissa) := by
  have positive : (0 : ℚ) < 2 ^ exponent := by positivity
  have near := (abs_le.mp nearest.distance_le).2
  constructor
  · have scaled : 0 ≤ number / 2 ^ exponent := div_nonneg scales.nonneg positive.le
    have above : (-1 : ℚ) < mantissa := by linarith
    have above : -1 < mantissa := by exact_mod_cast above
    omega
  · refine scales.leads.imp_right fun leads => ?_
    have scaled : 2 ^ 52 ≤ number / 2 ^ exponent := (le_div_iff₀ positive).mpr leads
    have above : (2 : ℚ) ^ 52 - 1 < mantissa := by linarith
    have above : 2 ^ 52 - 1 < mantissa := by exact_mod_cast above
    omega

/-- Whether the rounded mantissa is past the greatest one at the greatest exponent or the exponent
itself is. -/
def Exceeds (exponent mantissa : ℤ) : Prop :=
  971 < exponent ∨ (exponent = 971 ∧ mantissa = 2 ^ 53)

/-- What has been rounded is a binary64 number. A mantissa that has been rounded up to the next
power of two is that of the next exponent. -/
theorem isValue (scales : Scales number exponent)
    (nearest : IsNearestWhole (number / 2 ^ exponent) mantissa)
    (fits : ¬Exceeds exponent mantissa) :
    IsValue (mantissa * 2 ^ exponent) ∧
      (Even mantissa → IsEvenValue (mantissa * 2 ^ exponent)) := by
  have le := scales.mantissa_le nearest
  have leads := scales.leads_mantissa nearest
  have least := scales.least_le
  rw [Exceeds, not_or, not_lt] at fits
  rcases le.lt_or_eq with less | rfl
  · have normal : IsNormal mantissa exponent := by
      refine ⟨?_, least, fits.1, leads.2.imp_right fun leads => ?_⟩
      · rwa [abs_of_nonneg leads.1]
      · rwa [abs_of_nonneg (by omega)]
    exact ⟨⟨_, _, normal, rfl⟩, fun even => ⟨_, _, normal, even, rfl⟩⟩
  · have normal : IsNormal (2 ^ 52) (exponent + 1) :=
      ⟨by norm_num, by omega, by omega, .inr (by norm_num)⟩
    have same : ((2 ^ 53 : ℤ) : ℚ) * 2 ^ exponent = ((2 ^ 52 : ℤ) : ℚ) * 2 ^ (exponent + 1) := by
      rw [zpow_add_one₀ two_ne_zero]
      push_cast
      ring
    rw [same]
    exact ⟨⟨_, _, normal, rfl⟩, fun _ => ⟨_, _, normal, by decide, rfl⟩⟩

theorem distance_scaled (number : ℚ) (exponent whole : ℤ) :
    |number - whole * 2 ^ exponent| = 2 ^ exponent * |number / 2 ^ exponent - whole| := by
  have positive : (0 : ℚ) < 2 ^ exponent := by positivity
  rw [← abs_of_pos positive, ← abs_mul, abs_of_pos positive, mul_sub,
    mul_div_cancel₀ _ positive.ne', mul_comm (whole : ℚ)]

/-- A number of a smaller exponent is farther away than the power of two where the leading bit
changes, and so farther than the nearest whole multiple. -/
theorem distance_lt (scales : Scales number exponent)
    (nearest : IsNearestWhole (number / 2 ^ exponent) mantissa) {other otherExponent : ℤ}
    (otherNormal : IsNormal other otherExponent) (less : otherExponent < exponent) :
    |number - mantissa * 2 ^ exponent| < |number - other * 2 ^ otherExponent| := by
  have leads : (2 : ℚ) ^ 52 * 2 ^ exponent ≤ number :=
    scales.leads.resolve_left (by have := otherNormal.least_le; omega)
  have positive : (0 : ℚ) < 2 ^ otherExponent := by positivity
  have below : (other : ℚ) * 2 ^ otherExponent < 2 ^ 52 * 2 ^ exponent := by
    have small : (other : ℚ) < 2 ^ 53 := by
      have small := (abs_lt.mp otherNormal.mantissa_lt).2
      exact_mod_cast small
    have doubled : (2 : ℚ) * 2 ^ otherExponent ≤ 2 ^ exponent := by
      rw [← zpow_one_add₀ two_ne_zero]
      exact zpow_le_zpow_right₀ one_le_two (by omega)
    calc (other : ℚ) * 2 ^ otherExponent < 2 ^ 53 * 2 ^ otherExponent := by gcongr
      _ = 2 ^ 52 * (2 * 2 ^ otherExponent) := by ring
      _ ≤ 2 ^ 52 * 2 ^ exponent := by gcongr
  have leadingBit : ((2 ^ 52 : ℤ) : ℚ) = 2 ^ 52 := by norm_num
  have closer := nearest.le_distance (2 ^ 52 : ℤ)
  have leading := distance_scaled number exponent (2 ^ 52 : ℤ)
  rw [leadingBit] at closer leading
  calc |number - mantissa * 2 ^ exponent| = 2 ^ exponent * |number / 2 ^ exponent - mantissa| :=
        distance_scaled number exponent mantissa
    _ ≤ 2 ^ exponent * |number / 2 ^ exponent - 2 ^ 52| := by gcongr
    _ = |number - 2 ^ 52 * 2 ^ exponent| := leading.symm
    _ = number - 2 ^ 52 * 2 ^ exponent := abs_of_nonneg (by linarith)
    _ < number - other * 2 ^ otherExponent := by linarith
    _ ≤ |number - other * 2 ^ otherExponent| := le_abs_self _

/-- Every other binary64 number is as far away as the rounded one at least, and as far away only if
the mantissa is even. -/
theorem le_distance (scales : Scales number exponent)
    (nearest : IsNearestWhole (number / 2 ^ exponent) mantissa) {other : ℚ}
    (isValue : IsValue other) :
    |number - mantissa * 2 ^ exponent| ≤ |number - other| ∧
      (other ≠ mantissa * 2 ^ exponent →
        |number - other| = |number - mantissa * 2 ^ exponent| → Even mantissa) := by
  obtain ⟨otherMantissa, otherExponent, otherNormal, rfl⟩ := isValue
  by_cases less : otherExponent < exponent
  · have farther := scales.distance_lt nearest otherNormal less
    exact ⟨farther.le, fun _ tie => absurd tie farther.ne'⟩
  · obtain ⟨steps, rfl⟩ : ∃ steps : ℕ, otherExponent = exponent + steps :=
      ⟨(otherExponent - exponent).toNat, by omega⟩
    have positive : (0 : ℚ) < 2 ^ exponent := by positivity
    have multiple : (otherMantissa : ℚ) * 2 ^ (exponent + (steps : ℤ)) =
        ((otherMantissa * 2 ^ steps : ℤ) : ℚ) * 2 ^ exponent := by
      rw [zpow_add₀ two_ne_zero, zpow_natCast]
      push_cast
      ring
    rw [multiple, distance_scaled, distance_scaled]
    constructor
    · exact mul_le_mul_of_nonneg_left (nearest.le_distance _) positive.le
    · intro different tie
      refine nearest.even_of_tie (fun same => different ?_) (mul_left_cancel₀ positive.ne' tie)
      rw [same]

theorem lt_overflowBound (scales : Scales number exponent)
    (nearest : IsNearestWhole (number / 2 ^ exponent) mantissa)
    (fits : ¬Exceeds exponent mantissa) : number < overflowBound := by
  rw [Exceeds, not_or, not_lt, not_and] at fits
  rcases fits.1.lt_or_eq with less | rfl
  · have bounded : (2 : ℚ) ^ exponent ≤ 2 ^ (970 : ℤ) :=
      zpow_le_zpow_right₀ one_le_two (by omega)
    calc number < 2 ^ 53 * 2 ^ exponent := scales.lt
      _ ≤ 2 ^ 53 * 2 ^ (970 : ℤ) := by gcongr
      _ = 2 ^ (1023 : ℤ) := pow_mul_zpow _ (by norm_num)
      _ ≤ overflowBound := power_le_overflowBound
  · have positive : (0 : ℚ) < 2 ^ (971 : ℤ) := by positivity
    rw [overflowBound_eq, ← div_lt_iff₀ positive]
    have below : mantissa ≤ 2 ^ 53 - 1 := by
      have le := scales.mantissa_le nearest
      have different := fits.2 rfl
      omega
    have below : (mantissa : ℚ) ≤ 2 ^ 53 - 1 := by exact_mod_cast below
    have near := (abs_le.mp nearest.distance_le).2
    refine lt_of_le_of_ne (by linarith) fun half => ?_
    have greatest : (mantissa : ℚ) = 2 ^ 53 - 1 := by linarith
    have odd : ¬Even mantissa := by
      have isGreatest : mantissa = 2 ^ 53 - 1 := by exact_mod_cast greatest
      rw [isGreatest]
      decide
    refine odd (nearest.even_of_half ?_)
    rw [half, greatest]
    norm_num

theorem overflowBound_le (scales : Scales number exponent)
    (nearest : IsNearestWhole (number / 2 ^ exponent) mantissa)
    (exceeds : Exceeds exponent mantissa) : overflowBound ≤ number := by
  rcases exceeds with greater | ⟨rfl, rfl⟩
  · have leads : (2 : ℚ) ^ 52 * 2 ^ exponent ≤ number := scales.leads.resolve_left (by omega)
    have bounded : (2 : ℚ) ^ (972 : ℤ) ≤ 2 ^ exponent :=
      zpow_le_zpow_right₀ one_le_two (by omega)
    calc overflowBound ≤ 2 ^ (1024 : ℤ) := overflowBound_le_power
      _ = 2 ^ 52 * 2 ^ (972 : ℤ) := (pow_mul_zpow _ (by norm_num)).symm
      _ ≤ 2 ^ 52 * 2 ^ exponent := by gcongr
      _ ≤ number := leads
  · have positive : (0 : ℚ) < 2 ^ (971 : ℤ) := by positivity
    have near := (abs_le.mp nearest.distance_le).1
    have greatest : ((2 ^ 53 : ℤ) : ℚ) = 2 ^ 53 := by norm_num
    rw [greatest] at near
    rw [overflowBound_eq, ← le_div_iff₀ positive]
    generalize number / 2 ^ (971 : ℤ) = scaled at near ⊢
    linarith

end Scales

/-- Whether a binary64 magnitude is the one nearest to a number, infinity included. -/
def Rounds (number : ℚ) : Binary64 → Prop
  | .finite mantissa exponent => IsNearest number (mantissa * 2 ^ exponent)
  | .infinite => overflowBound ≤ number

theorem Scales.isNearest {number : ℚ} {exponent mantissa : ℤ} (scales : Scales number exponent)
    (nearest : IsNearestWhole (number / 2 ^ exponent) mantissa)
    (fits : ¬Exceeds exponent mantissa) : IsNearest number (mantissa * 2 ^ exponent) where
  inRange := by
    rw [abs_of_nonneg scales.nonneg]
    exact scales.lt_overflowBound nearest fits
  isValue := (scales.isValue nearest fits).1
  le_distance _ isValue := (scales.le_distance nearest isValue).1
  even_of_tie _ isValue different tie :=
    (scales.isValue nearest fits).2 ((scales.le_distance nearest isValue).2 different tie)

theorem zpow_eq_div (exponent : ℤ) :
    (2 : ℚ) ^ exponent = 2 ^ exponent.toNat / 2 ^ (-exponent).toNat := by
  rcases le_total 0 exponent with nonneg | nonpos
  · lift exponent to ℕ using nonneg
    simp
  · obtain ⟨power, rfl⟩ : ∃ power : ℕ, exponent = -power := ⟨(-exponent).toNat, by omega⟩
    simp

theorem powerAtMost_iff (power : ℤ) (numerator : ℕ) {denominator : ℕ} (positive : 0 < denominator) :
    powerAtMost power numerator denominator = true ↔ (2 : ℚ) ^ power ≤ numerator / denominator := by
  have positive' : (0 : ℚ) < denominator := by exact_mod_cast positive
  rw [zpow_eq_div, div_le_div_iff₀ (by positivity) positive', powerAtMost, decide_eq_true_eq,
    mul_comm denominator]
  simp only [Nat.pow_eq]
  norm_cast

/-- The greatest power of two at most a quotient is found. -/
theorem binaryOrder_spec {numerator denominator : ℕ} (numeratorPositive : 0 < numerator)
    (positive : 0 < denominator) :
    (2 : ℚ) ^ binaryOrder numerator denominator ≤ numerator / denominator ∧
      (numerator / denominator : ℚ) < 2 ^ (binaryOrder numerator denominator + 1) := by
  have positive' : (0 : ℚ) < denominator := by exact_mod_cast positive
  have numerator_le : (2 : ℚ) ^ numerator.log2 ≤ numerator := by
    exact_mod_cast Nat.log2_self_le numeratorPositive.ne'
  have numerator_lt : (numerator : ℚ) < 2 ^ (numerator.log2 + 1) := by
    exact_mod_cast Nat.lt_log2_self
  have denominator_le : (2 : ℚ) ^ denominator.log2 ≤ denominator := by
    exact_mod_cast Nat.log2_self_le positive.ne'
  have denominator_lt : (denominator : ℚ) < 2 ^ (denominator.log2 + 1) := by
    exact_mod_cast Nat.lt_log2_self
  have estimated (shift : ℤ) : (2 : ℚ) ^ ((numerator.log2 : ℤ) - denominator.log2 + shift) =
      2 ^ numerator.log2 / 2 ^ denominator.log2 * 2 ^ shift := by
    rw [zpow_add₀ two_ne_zero, zpow_sub₀ two_ne_zero, zpow_natCast, zpow_natCast]
  have below : (numerator / denominator : ℚ) <
      2 ^ ((numerator.log2 : ℤ) - denominator.log2 + 1) := by
    rw [estimated, zpow_one, div_mul_eq_mul_div, ← pow_succ,
      div_lt_div_iff₀ positive' (by positivity)]
    calc (numerator : ℚ) * 2 ^ denominator.log2 ≤ numerator * denominator := by gcongr
      _ < 2 ^ (numerator.log2 + 1) * denominator := by gcongr
  have above : (2 : ℚ) ^ ((numerator.log2 : ℤ) - denominator.log2 + -1) ≤
      numerator / denominator := by
    rw [estimated, zpow_neg_one, ← div_eq_mul_inv, div_div, ← pow_succ,
      div_le_div_iff₀ (by positivity) positive']
    calc (2 : ℚ) ^ numerator.log2 * denominator ≤ numerator * denominator := by gcongr
      _ ≤ numerator * 2 ^ (denominator.log2 + 1) := by gcongr
  rw [binaryOrder]
  split
  next reached => exact ⟨(powerAtMost_iff _ _ positive).mp reached, below⟩
  next missed =>
    rw [powerAtMost_iff _ _ positive, not_le] at missed
    exact ⟨above, by rwa [sub_add_cancel]⟩

theorem scales_ofRatio {numerator denominator : ℕ} (numeratorPositive : 0 < numerator)
    (positive : 0 < denominator) :
    Scales (numerator / denominator)
      (max leastExponent (binaryOrder numerator denominator - fractionBits)) := by
  have spec := binaryOrder_spec numeratorPositive positive
  generalize binaryOrder numerator denominator = order at spec
  simp only [leastExponent, fractionBits]
  refine ⟨le_max_left _ _, by positivity, ?_, ?_⟩
  · calc (numerator / denominator : ℚ) < 2 ^ (order + 1) := spec.2
      _ ≤ 2 ^ ((53 : ℕ) + max (-1074) (order - (52 : ℕ))) :=
        zpow_le_zpow_right₀ one_le_two (by omega)
      _ = 2 ^ 53 * 2 ^ max (-1074) (order - (52 : ℕ)) := (pow_mul_zpow _ rfl).symm
  · rcases le_total (order - (52 : ℕ)) (-1074) with least | above
    · exact .inl (max_eq_left least)
    · right
      rw [max_eq_right above, pow_mul_zpow order (by omega)]
      exact spec.1

theorem scaled_quotient (numerator denominator : ℕ) (exponent : ℤ) :
    ((numerator * Nat.pow 2 (-exponent).toNat : ℕ) : ℚ) /
        (denominator * Nat.pow 2 exponent.toNat : ℕ) =
      numerator / denominator / 2 ^ exponent := by
  rw [zpow_eq_div]
  simp only [Nat.pow_eq]
  push_cast
  rw [div_div_eq_mul_div, div_mul_eq_mul_div, div_div]

/-- A positive quotient is rounded to the nearest magnitude. -/
theorem rounds_ofRatio {numerator denominator : ℕ} (numeratorPositive : 0 < numerator)
    (positive : 0 < denominator) :
    Rounds (numerator / denominator) (ofRatio numerator denominator) := by
  have scales := scales_ofRatio numeratorPositive positive
  rw [ofRatio]
  generalize max leastExponent (binaryOrder numerator denominator - fractionBits) = exponent
    at scales
  have denominatorPositive : 0 < denominator * Nat.pow 2 exponent.toNat :=
    Nat.mul_pos positive (Nat.two_pow_pos _)
  have nearest := isNearestWhole_roundHalfEven (numerator * Nat.pow 2 (-exponent).toNat)
    denominatorPositive
  rw [scaled_quotient] at nearest
  generalize roundHalfEven (numerator * Nat.pow 2 (-exponent).toNat)
    (denominator * Nat.pow 2 exponent.toNat) = mantissa at nearest
  have exceeds_iff : (greatestExponent < exponent ∨
      exponent = greatestExponent ∧ mantissa = Nat.pow 2 (fractionBits + 1)) ↔
        Scales.Exceeds exponent mantissa := by
    simp only [Scales.Exceeds, greatestExponent, fractionBits, Nat.pow_eq]
    norm_cast
  split
  next exceeds => exact scales.overflowBound_le nearest (exceeds_iff.mp exceeds)
  next fits =>
    rw [exceeds_iff] at fits
    exact scales.isNearest nearest fits

theorem isNearest_zero {number : ℚ} (nonneg : 0 ≤ number) (small : number < 2 ^ (-1075 : ℤ)) :
    IsNearest number 0 := by
  have scales : Scales number (-1074) := by
    refine ⟨le_rfl, nonneg, small.trans_le ?_, .inl rfl⟩
    rw [pow_mul_zpow (-1021) (by norm_num)]
    exact zpow_le_zpow_right₀ one_le_two (by norm_num)
  have positive : (0 : ℚ) < 2 ^ (-1074 : ℤ) := by positivity
  have lt_half : number / 2 ^ (-1074 : ℤ) < 1 / 2 := by
    have half : (2 : ℚ) ^ (-1075 : ℤ) = 1 / 2 * 2 ^ (-1074 : ℤ) := by
      rw [one_div, ← zpow_neg_one, ← zpow_add₀ two_ne_zero]
      norm_num
    rwa [div_lt_iff₀ positive, ← half]
  have nearest : IsNearestWhole (number / 2 ^ (-1074 : ℤ)) 0 := by
    have distance : |number / 2 ^ (-1074 : ℤ) - (0 : ℤ)| = number / 2 ^ (-1074 : ℤ) := by
      rw [Int.cast_zero, sub_zero, abs_of_nonneg (div_nonneg nonneg positive.le)]
    exact ⟨by rw [distance]; exact lt_half.le, fun _ => Even.zero⟩
  have isNearest := scales.isNearest nearest (by norm_num [Scales.Exceeds])
  rwa [Int.cast_zero, zero_mul] at isNearest

/-- A number with at least so many decimal digits in front of the point is past the bound. -/
theorem overflowBound_le_of_power {significand power : ℕ} (positive : 0 < significand)
    (large : overflowPower ≤ power) : overflowBound ≤ significand * 10 ^ power := by
  have one_le : (1 : ℚ) ≤ significand := by exact_mod_cast positive
  calc overflowBound ≤ 2 ^ (1024 : ℤ) := overflowBound_le_power
    _ ≤ 2 ^ (3 * 400) := by
      rw [← zpow_natCast]
      exact zpow_le_zpow_right₀ one_le_two (by norm_num)
    _ = 8 ^ 400 := by rw [pow_mul]; norm_num
    _ ≤ 10 ^ 400 := by gcongr; norm_num
    _ ≤ 10 ^ power := pow_le_pow_right₀ (by norm_num) large
    _ ≤ significand * 10 ^ power := le_mul_of_one_le_left (by positivity) one_le

theorem lt_of_underflow {significand power : ℕ}
    (tiny : significand.log2 + underflowOrder ≤ power) :
    (significand : ℚ) * 10 ^ (-(power + 1 : ℕ) : ℤ) < 2 ^ (-1075 : ℤ) := by
  have below : (significand : ℚ) < 2 ^ (significand.log2 + 1) := by
    exact_mod_cast Nat.lt_log2_self
  have power_le : (10 : ℚ) ^ (-(power + 1 : ℕ) : ℤ) ≤ 2 ^ (-(power + 1 : ℕ) : ℤ) := by
    rw [zpow_neg, zpow_neg, zpow_natCast, zpow_natCast]
    gcongr
    norm_num
  calc (significand : ℚ) * 10 ^ (-(power + 1 : ℕ) : ℤ)
      ≤ significand * 2 ^ (-(power + 1 : ℕ) : ℤ) := by gcongr
    _ < 2 ^ (significand.log2 + 1) * 2 ^ (-(power + 1 : ℕ) : ℤ) := by gcongr
    _ = 2 ^ (((significand.log2 + 1 : ℕ) : ℤ) + -(power + 1 : ℕ)) := pow_mul_zpow _ rfl
    _ ≤ 2 ^ (-1075 : ℤ) := by
      refine zpow_le_zpow_right₀ one_le_two ?_
      rw [underflowOrder] at tiny
      push_cast
      omega

/-- A decimal number is rounded to the nearest magnitude, however many digits it has. -/
theorem rounds_ofDecimal (significand : ℕ) (exponent : ℤ) :
    Rounds (significand * 10 ^ exponent) (ofDecimal significand exponent) := by
  have zero (number : ℚ) (nonneg : 0 ≤ number) (small : number < 2 ^ (-1075 : ℤ)) :
      Rounds number (.finite 0 leastExponent) := by
    rw [Rounds, Nat.cast_zero, zero_mul]
    exact isNearest_zero nonneg small
  unfold ofDecimal
  split
  next isZero => exact zero _ (by positivity) (by rw [isZero]; simp)
  next nonzero =>
    have positive : 0 < significand := Nat.pos_of_ne_zero nonzero
    split
    next power =>
      rw [Int.ofNat_eq_natCast, zpow_natCast]
      split
      next large => exact overflowBound_le_of_power positive large
      next =>
        have rounds := rounds_ofRatio (Nat.mul_pos positive (Nat.pow_pos (n := power)
          (by decide : 0 < 10))) Nat.one_pos
        rw [Nat.cast_one, div_one] at rounds
        exact_mod_cast rounds
    next power =>
      rw [Int.negSucc_eq, ← Nat.cast_succ]
      split
      next tiny => exact zero _ (by positivity) (lt_of_underflow tiny)
      next =>
        have rounds := rounds_ofRatio positive (Nat.pow_pos (n := power + 1)
          (by decide : 0 < 10))
        rw [zpow_neg, zpow_natCast, ← div_eq_mul_inv]
        exact_mod_cast rounds

end Binary64

end UploadProbe
