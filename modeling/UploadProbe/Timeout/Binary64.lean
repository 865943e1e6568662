/-!
# Nearest binary64

The magnitude of a binary64 number is `mantissa * 2 ^ exponent` with a mantissa of at most 53 bits,
or infinite. `ofDecimal` gives the magnitude nearest to a decimal number, a tie going to the even
mantissa, with gradual underflow and with overflow to infinity. All of it is integer arithmetic.
-/

namespace UploadProbe

/-- The quotient rounded to the nearest natural number, a half going to the even neighbour. -/
def roundHalfEven (numerator denominator : Nat) : Nat :=
  let quotient := numerator / denominator
  let twice := 2 * (numerator % denominator)
  if denominator < twice ∨ (twice = denominator ∧ quotient % 2 = 1) then quotient + 1
  else quotient

/-- The magnitude of a binary64 number. -/
inductive Binary64 where
  | finite (mantissa : Nat) (exponent : Int)
  | infinite
deriving DecidableEq, Repr

namespace Binary64

/-- The exponent of the smallest magnitudes. -/
def leastExponent : Int := -1074

/-- The exponent of the greatest finite magnitudes. -/
def greatestExponent : Int := 971

/-- How many bits a mantissa has below its leading one. -/
def fractionBits : Nat := 52

/-- Whether `2 ^ power` is at most the quotient. -/
def powerAtMost (power : Int) (numerator denominator : Nat) : Bool :=
  denominator * Nat.pow 2 power.toNat ≤ numerator * Nat.pow 2 (-power).toNat

/-- The greatest power of two at most a positive quotient, by its exponent. -/
def binaryOrder (numerator denominator : Nat) : Int :=
  let estimate : Int := (numerator.log2 : Int) - denominator.log2
  if powerAtMost estimate numerator denominator then estimate else estimate - 1

/-- The magnitude nearest to a positive quotient. -/
def ofRatio (numerator denominator : Nat) : Binary64 :=
  let exponent := max leastExponent (binaryOrder numerator denominator - fractionBits)
  let mantissa :=
    roundHalfEven (numerator * Nat.pow 2 (-exponent).toNat)
      (denominator * Nat.pow 2 exponent.toNat)
  if greatestExponent < exponent ∨
      (exponent = greatestExponent ∧ mantissa = Nat.pow 2 (fractionBits + 1)) then .infinite
  else .finite mantissa exponent

/-- From this power of ten on, every positive integer multiple is past the finite magnitudes. -/
def overflowPower : Nat := 400

/-- A positive number below two to the minus this is nearest to zero. -/
def underflowOrder : Nat := 1100

/-- The magnitude nearest to `significand * 10 ^ exponent`. The two early answers spare powers of
ten of a size that no finite magnitude needs. -/
def ofDecimal (significand : Nat) (exponent : Int) : Binary64 :=
  if significand = 0 then .finite 0 leastExponent
  else
    match exponent with
    | .ofNat power =>
      if overflowPower ≤ power then .infinite else ofRatio (significand * Nat.pow 10 power) 1
    | .negSucc power =>
      if significand.log2 + underflowOrder ≤ power then .finite 0 leastExponent
      else ofRatio significand (Nat.pow 10 (power + 1))

def isZero : Binary64 → Bool
  | .finite mantissa _ => mantissa = 0
  | .infinite => false

end Binary64

end UploadProbe
