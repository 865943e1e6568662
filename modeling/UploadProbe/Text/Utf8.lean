import UploadProbe.Text.Basic

/-!
# UTF-8

Octets are read one at a time by `step`, which either finishes a scalar value, opens one, or gives
up on the octets read so far. `scan` lists what it finds, with a gap for every stretch of octets
that begins no scalar value or breaks one off; such a stretch is as long as it can be. Strict
reading refuses gaps, lenient reading shows each as the replacement character.
-/

namespace UploadProbe.Utf8

/-- A scalar value whose first octets have been read. -/
structure Begun where
  /-- How many octets it still needs after the next one. -/
  further : Nat
  least : UInt8
  greatest : UInt8
  bits : Nat
deriving DecidableEq, Repr

/-- What a first octet says. -/
inductive Lead where
  | whole (c : Char)
  | opens (begun : Begun)
  | stray

/-- The first octet of a scalar value, with the ranges that keep out overlong forms, surrogates
and numbers past the last scalar value. -/
def lead (b : UInt8) : Lead :=
  if b < 0x80 then .whole (Char.ofNat b.toNat)
  else if b < 0xC2 then .stray
  else if b < 0xE0 then .opens ⟨0, 0x80, 0xBF, b.toNat - 0xC0⟩
  else if b = 0xE0 then .opens ⟨1, 0xA0, 0xBF, 0⟩
  else if b = 0xED then .opens ⟨1, 0x80, 0x9F, 0xD⟩
  else if b < 0xF0 then .opens ⟨1, 0x80, 0xBF, b.toNat - 0xE0⟩
  else if b = 0xF0 then .opens ⟨2, 0x90, 0xBF, 0⟩
  else if b < 0xF4 then .opens ⟨2, 0x80, 0xBF, b.toNat - 0xF0⟩
  else if b = 0xF4 then .opens ⟨2, 0x80, 0x8F, 4⟩
  else .stray

/-- Reads an octet where no scalar value is open. -/
def begin (b : UInt8) : List (Option Char) × Option Begun :=
  match lead b with
  | .whole c => ([some c], none)
  | .opens begun => ([], some begun)
  | .stray => ([none], none)

/-- Reads one octet. An octet that cannot continue the open scalar value leaves a gap behind and
is read again as a first octet. -/
def step (opened : Option Begun) (b : UInt8) : List (Option Char) × Option Begun :=
  match opened with
  | none => begin b
  | some begun =>
    if begun.least ≤ b ∧ b ≤ begun.greatest then
      let bits := begun.bits * 64 + (b.toNat - 0x80)
      match begun.further with
      | 0 => ([some (Char.ofNat bits)], none)
      | further + 1 => ([], some ⟨further, 0x80, 0xBF, bits⟩)
    else
      let (found, next) := begin b
      (none :: found, next)

/-- The scalar values and gaps of a byte string, from a state between octets. -/
def scan (opened : Option Begun) : Bytes → List (Option Char)
  | [] => if opened.isSome then [none] else []
  | b :: rest =>
    let (found, next) := step opened b
    found ++ scan next rest

/-- The text of a byte string that is UTF-8 throughout. -/
def decode? (bytes : Bytes) : Option Text :=
  (scan none bytes).mapM id

/-- The text of a byte string, with U+FFFD for every gap. -/
def decodeLossy (bytes : Bytes) : Text :=
  (scan none bytes).map (·.getD '\uFFFD')

def encode (text : Text) : Bytes :=
  text.flatMap String.utf8EncodeChar

end UploadProbe.Utf8
