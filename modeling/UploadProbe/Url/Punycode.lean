import UploadProbe.Text.Basic

/-!
# Punycode

The ASCII form of a label: its ASCII characters in order, then a delimiter, then the other
characters as a series of numbers, each written with digits of the base 36 whose thresholds adapt
to the numbers before it. Decoding inserts the characters one after the other.
-/

namespace UploadProbe.Punycode

def digitChar (value : Nat) : Char :=
  if value < 26 then Char.ofNat ('a'.toNat + value) else Char.ofNat ('0'.toNat + (value - 26))

def digitValue? (c : Char) : Option Nat :=
  if 'a' ≤ c ∧ c ≤ 'z' then some (c.toNat - 'a'.toNat)
  else if 'A' ≤ c ∧ c ≤ 'Z' then some (c.toNat - 'A'.toNat)
  else if '0' ≤ c ∧ c ≤ '9' then some (c.toNat - '0'.toNat + 26)
  else none

/-- The value below which the digit at a position ends its number. -/
def threshold (position bias : Nat) : Nat :=
  min 26 (max 1 (position - bias))

/-- Divides by 35 until little is left, counting positions. -/
def shrink : (budget : Nat) → (delta position : Nat) → Nat × Nat
  | 0, delta, position => (delta, position)
  | budget + 1, delta, position =>
    if 455 < delta then shrink budget (delta / 35) (position + 36) else (delta, position)

/-- The bias after a number, when so many characters have been handled. -/
def adapt (delta handled : Nat) (isFirst : Bool) : Nat :=
  let halved := if isFirst then delta / 700 else delta / 2
  let scaled := halved + halved / handled
  let (rest, position) := shrink scaled scaled 0
  position + 36 * rest / (rest + 38)

/-- The digits of a number from a position on. -/
def writeDigits (bias : Nat) : (budget : Nat) → (position number : Nat) → Text
  | 0, _, _ => []
  | budget + 1, position, number =>
    let least := threshold position bias
    if number < least then [digitChar number]
    else
      digitChar (least + (number - least) % (36 - least)) ::
        writeDigits bias budget (position + 36) ((number - least) / (36 - least))

/-- The state of an encoder between two characters. -/
structure Encoder where
  written : Text
  delta : Nat
  bias : Nat
  handled : Nat

/-- Passes one character while characters with a certain scalar value are being written. -/
def Encoder.pass (basicCount scalar : Nat) (encoder : Encoder) (c : Char) : Encoder :=
  if c.toNat < scalar then { encoder with delta := encoder.delta + 1 }
  else if c.toNat = scalar then {
      written := encoder.written ++ writeDigits encoder.bias (encoder.delta + 1) 36 encoder.delta
      delta := 0
      bias := adapt encoder.delta (encoder.handled + 1) (encoder.handled = basicCount)
      handled := encoder.handled + 1 }
  else encoder

/-- Writes the characters with the given scalar values, in ascending order. -/
def encodeScalars (label : Text) (basicCount : Nat) : (next : Nat) → List Nat → Encoder → Text
  | _, [], encoder => encoder.written
  | next, scalar :: scalars, encoder =>
    let reached :=
      { encoder with delta := encoder.delta + (scalar - next) * (encoder.handled + 1) }
    let passed := label.foldl (Encoder.pass basicCount scalar) reached
    encodeScalars label basicCount (scalar + 1) scalars { passed with delta := passed.delta + 1 }

/-- The form of a label, without the mark in front of it. -/
def encode (label : Text) : Text :=
  let basic := label.filter (· < '\x80')
  let scalars := ((label.filter ('\x80' ≤ ·)).map Char.toNat).mergeSort.eraseDups
  basic ++ (if basic.isEmpty then [] else ['-']) ++
    encodeScalars label basic.length 0x80 scalars ⟨[], 0, 72, basic.length⟩

/-- Reads one number on top of a value: the sum and the rest of the digits. -/
def readDigits? (bias : Nat) : (position weight value : Nat) → Text → Option (Nat × Text)
  | _, _, _, [] => none
  | position, weight, value, c :: rest =>
    match digitValue? c with
    | none => none
    | some digit =>
      let least := threshold position bias
      let value := value + digit * weight
      if digit < least then some (value, rest)
      else readDigits? bias (position + 36) (weight * (36 - least)) value rest

/-- Inserts the characters that the digits tell into a text. -/
def insertScalars? : (budget : Nat) → (bias scalar index : Nat) → (decoded digits : Text) →
    Option Text
  | _, _, _, _, decoded, [] => some decoded
  | 0, _, _, _, _, _ :: _ => none
  | budget + 1, bias, scalar, index, decoded, digits =>
    match readDigits? bias 36 1 index digits with
    | none => none
    | some (value, rest) =>
      let count := decoded.length + 1
      let scalar := scalar + value / count
      let place := value % count
      if Nat.isValidChar scalar then
        insertScalars? budget (adapt (value - index) count (index = 0)) scalar (place + 1)
          (decoded.insertIdx place (Char.ofNat scalar)) rest
      else none

/-- The label of a form without its mark. -/
def decode? (form : Text) : Option Text :=
  let reversed := form.reverse
  let digits := (reversed.takeWhile (· ≠ '-')).reverse
  let basic := (reversed.dropWhile (· ≠ '-')).tail.reverse
  if basic.all (· < '\x80') then insertScalars? digits.length 72 0x80 0 basic digits else none

end UploadProbe.Punycode
