/-!
# Text and bytes

Text is a list of Unicode scalar values and a byte string a list of octets, so that what is said
about lists (prefixes, suffixes, concatenation) is said about them as well. This module also holds
the number words every output uses, and the ASCII classes that the readers share.
-/

namespace UploadProbe

/-- A piece of text: its Unicode scalar values in order. -/
abbrev Text := List Char

abbrev Bytes := List UInt8

namespace Text

/-- The text of octets of which each stands for the character with its number. -/
def ofAscii (octets : Bytes) : Text :=
  octets.map fun b => Char.ofNat b.toNat

/-- A number in decimal, without leading zeros. -/
def ofNat (number : Nat) : Text :=
  Nat.toDigits 10 number

/-- A number in hexadecimal with small letters, without leading zeros. -/
def ofNatHex (number : Nat) : Text :=
  Nat.toDigits 16 number

/-- A number below `16 ^ width` in hexadecimal with exactly `width` small digits. -/
def hexWord : (width : Nat) → (number : Nat) → Text
  | 0, _ => []
  | width + 1, number => hexWord width (number / 16) ++ [Nat.digitChar (number % 16)]

@[simp]
theorem length_hexWord (width number : Nat) : (hexWord width number).length = width := by
  induction width generalizing number with
  | zero => rfl
  | succ width inductionHypothesis => simp [hexWord, inductionHypothesis]

/-- The value of a run of decimal digits, read from the left onto what stands before it. -/
def decimalValue (digits : Text) : Nat :=
  digits.foldl (fun value digit => value * 10 + (digit.toNat - '0'.toNat)) 0

/-- The value of one hexadecimal digit, in either case. -/
def hexDigit? (c : Char) : Option Nat :=
  if '0' ≤ c ∧ c ≤ '9' then some (c.toNat - '0'.toNat)
  else if 'a' ≤ c ∧ c ≤ 'f' then some (c.toNat - 'a'.toNat + 10)
  else if 'A' ≤ c ∧ c ≤ 'F' then some (c.toNat - 'A'.toNat + 10)
  else none

/-- The small ASCII letter of a capital one; every other character as it is. -/
def lowerChar (c : Char) : Char :=
  if 'A' ≤ c ∧ c ≤ 'Z' then Char.ofNat (c.toNat + 32) else c

/-- Capital ASCII letters made small, nothing else touched. -/
def lower (text : Text) : Text :=
  text.map lowerChar

/-- The pieces between the separators, one more than there are separators. -/
def splitOn (separator : Char) : Text → List Text
  | [] => [[]]
  | c :: rest =>
    if c = separator then [] :: splitOn separator rest
    else
      match splitOn separator rest with
      | [] => [[c]]
      | piece :: pieces => (c :: piece) :: pieces

/-- The pieces with a separator text between neighbours. -/
def joinWith (separator : Text) : List Text → Text
  | [] => []
  | [piece] => piece
  | piece :: pieces => piece ++ separator ++ joinWith separator pieces

/-- Splits at the first character that satisfies a test, which is dropped; without one there is
no second part. -/
def cutAt (test : Char → Bool) : Text → Text × Option Text
  | [] => ([], none)
  | c :: rest =>
    if test c then ([], some rest)
    else
      let (before, after) := cutAt test rest
      (c :: before, after)

/-- The longest beginning of which every character satisfies the test, and the rest. -/
def span (test : Char → Bool) (text : Text) : Text × Text :=
  (text.takeWhile test, text.dropWhile test)

/-- Drops the characters of a class at both ends. -/
def trim (blank : Char → Bool) (text : Text) : Text :=
  ((text.dropWhile blank).reverse.dropWhile blank).reverse

end Text

namespace Bytes

/-- The pieces between the separators, one more than there are separators. -/
def splitOn (separator : UInt8) : Bytes → List Bytes
  | [] => [[]]
  | b :: rest =>
    if b = separator then [] :: splitOn separator rest
    else
      match splitOn separator rest with
      | [] => [[b]]
      | piece :: pieces => (b :: piece) :: pieces

def ascii (c : Char) : UInt8 :=
  UInt8.ofNat c.toNat

def ofAscii (text : Text) : Bytes :=
  text.map ascii

def isDigit (b : UInt8) : Bool :=
  0x30 ≤ b && b ≤ 0x39

/-- The small ASCII letter of a capital one; every other octet as it is. -/
def lowerByte (b : UInt8) : UInt8 :=
  if 0x41 ≤ b && b ≤ 0x5A then b + 0x20 else b

end Bytes

end UploadProbe
