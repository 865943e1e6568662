import UploadProbe.Text.Basic

/-!
# Numbers as people write them

A numeral is an optional sign followed by one of the words for infinity and for no number, in any
case, or by decimal digits with an optional point and an optional exponent. The digits may stand on
either side of the point but not be missing on both. Digits have no length limit, so a numeral keeps
its significand exactly. An exponent is counted until it is out of all reason: the digits behind
that are passed over, even where as many digits behind the point would make up for them.
-/

namespace UploadProbe

/-- The number that a numeral stands for. -/
inductive Numeral where
  /-- `significand * 10 ^ exponent`, with a sign. -/
  | finite (negative : Bool) (significand : Nat) (exponent : Int)
  /-- Infinity, with a sign. -/
  | infinite (negative : Bool)
  | notANumber
deriving DecidableEq, Repr

namespace Numeral

/-- Takes an optional sign off the front; true means minus. -/
def takeSign : Text → Bool × Text
  | '-' :: rest => (true, rest)
  | '+' :: rest => (false, rest)
  | text => (false, text)

/-- An exponent that has reached this is not counted any further. -/
def exponentCap : Nat := 65536

/-- The value of the digits of an exponent, as far as it is counted. -/
def exponentValue (digits : Text) : Nat :=
  digits.foldl (fun value digit =>
    if value < exponentCap then value * 10 + (digit.toNat - '0'.toNat) else value) 0

/-- The power of ten after the digits, which is all that may follow them. -/
def readExponent? : Text → Option Int
  | [] => some 0
  | c :: rest =>
    if c = 'e' ∨ c = 'E' then
      let (negative, digits) := takeSign rest
      if digits.isEmpty || !digits.all Char.isDigit then none
      else if negative then some (-(exponentValue digits : Int))
      else some (exponentValue digits)
    else none

/-- The digits after the point, if there is one, and what follows. -/
def readFraction : Text → Text × Text
  | '.' :: rest => Text.span Char.isDigit rest
  | text => ([], text)

/-- An unsigned decimal number: significand and power of ten. -/
def readDecimal? (text : Text) : Option (Nat × Int) :=
  let (whole, afterWhole) := Text.span Char.isDigit text
  let (fraction, afterFraction) := readFraction afterWhole
  if whole.isEmpty && fraction.isEmpty then none
  else
    (readExponent? afterFraction).map fun exponent =>
      (Text.decimalValue (whole ++ fraction), exponent - fraction.length)

def infinityWords : List Text :=
  ["inf".toList, "infinity".toList]

def notANumberWord : Text :=
  "nan".toList

def read? (text : Text) : Option Numeral :=
  let (negative, unsigned) := takeSign text
  if Text.lower unsigned ∈ infinityWords then some (.infinite negative)
  else if Text.lower unsigned = notANumberWord then some .notANumber
  else
    (readDecimal? unsigned).map fun (significand, exponent) =>
      .finite negative significand exponent

end Numeral

end UploadProbe
