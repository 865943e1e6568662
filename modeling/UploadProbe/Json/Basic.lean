import UploadProbe.Text.Basic

/-!
# JSON values as written

A JSON text is kept as it is written: a string as its pieces, with escapes not yet undone, and a
number as its characters. Undoing the escapes can fail, since an escape may name half a surrogate
pair; a string that nobody looks at may hold such halves.
-/

namespace UploadProbe

namespace Json

/-- One piece of a written string. -/
inductive Piece where
  | plain (c : Char)
  /-- A backslash and a letter, which stand for this character. -/
  | escaped (c : Char)
  /-- A backslash, `u` and four hexadecimal digits: a UTF-16 code unit. -/
  | unit (code : Nat)
deriving DecidableEq, Repr

/-- A string as written between its quotes. -/
abbrev RawString := List Piece

end Json

/-- A JSON value as written. -/
inductive Json where
  | null
  | bool (value : Bool)
  | number (lexeme : Text)
  | string (raw : Json.RawString)
  | array (elements : List Json)
  | object (members : List (Json.RawString × Json))

namespace Json

def isLeadingHalf (code : Nat) : Bool :=
  0xD800 ≤ code && code < 0xDC00

def isTrailingHalf (code : Nat) : Bool :=
  0xDC00 ≤ code && code < 0xE000

def pairChar (leading trailing : Nat) : Char :=
  Char.ofNat (0x10000 + (leading - 0xD800) * 0x400 + (trailing - 0xDC00))

/-- The text of a written string; none when half a surrogate pair stands alone. -/
def RawString.decode? : RawString → Option Text
  | [] => some []
  | .plain c :: rest => (decode? rest).map (c :: ·)
  | .escaped c :: rest => (decode? rest).map (c :: ·)
  | .unit leading :: .unit trailing :: rest =>
    if isLeadingHalf leading then
      if isTrailingHalf trailing then (decode? rest).map (pairChar leading trailing :: ·) else none
    else if isTrailingHalf leading then none
    else (decode? (.unit trailing :: rest)).map (Char.ofNat leading :: ·)
  | .unit code :: rest =>
    if isLeadingHalf code || isTrailingHalf code then none
    else (decode? rest).map (Char.ofNat code :: ·)

end Json

end UploadProbe
