import UploadProbe.Charset.Label
import UploadProbe.MediaType

/-!
# The text of a body

A body is text in the charset that its media type names, or in UTF-8. A byte order mark in front of
it wins over both. Every byte string has a text: what cannot be read is shown as the replacement
character, and octets that are UTF-8 already are left as they are, their mark included.
-/

namespace UploadProbe

namespace Charset

def replacement : Char := '\uFFFD'

/-- Reads numbers of 16 bits, behind the first half of a pair if there is one; a half without the
other cannot be read. -/
def decodeUnits : (opened : Option Nat) → List Nat → Text
  | none, [] => []
  | some _, [] => [replacement]
  | opened, unit :: rest =>
    let alone := opened.toList.map fun _ => replacement
    if 0xD800 ≤ unit ∧ unit < 0xDC00 then alone ++ decodeUnits (some unit) rest
    else if 0xDC00 ≤ unit ∧ unit < 0xE000 then
      match opened with
      | some high =>
        Char.ofNat (0x10000 + (high - 0xD800) * 1024 + (unit - 0xDC00)) :: decodeUnits none rest
      | none => replacement :: decodeUnits none rest
    else alone ++ Char.ofNat unit :: decodeUnits none rest

/-- The numbers of 16 bits of octets, and whether one octet is left over. -/
def units (bigEndian : Bool) : Bytes → List Nat × Bool
  | [] => ([], false)
  | [_] => ([], true)
  | a :: b :: rest =>
    let (found, isLeft) := units bigEndian rest
    ((if bigEndian then a.toNat * 256 + b.toNat else b.toNat * 256 + a.toNat) :: found, isLeft)

/-- The text of octets in UTF-16. An octet that is left over makes one gap together with the half
of a pair in front of it. -/
def decodeUtf16 (bigEndian : Bool) (octets : Bytes) : Text :=
  let (found, isLeft) := units bigEndian octets
  let endsOpen := found.getLast?.any fun unit => 0xD800 ≤ unit && unit < 0xDC00
  decodeUnits none found ++ if isLeft && !endsOpen then [replacement] else []

def decodeByte (upperHalf : Text) (b : UInt8) : Char :=
  if b < 0x80 then Char.ofNat b.toNat else upperHalf.getD (b.toNat - 0x80) replacement

variable [MultibyteDecoding]

def decode (charset : Charset) (octets : Bytes) : Text :=
  match charset with
  | .multibyte charset => MultibyteDecoding.decode charset octets
  | .utf8 => Utf8.decodeLossy octets
  | .utf16BigEndian => decodeUtf16 true octets
  | .utf16LittleEndian => decodeUtf16 false octets
  | .singleByte upperHalf => octets.map (decodeByte upperHalf)
  | .withheld => if octets.isEmpty then [] else [replacement]

/-- The charset that a byte order mark tells, and the octets behind the mark. -/
def byMark? : Bytes → Option (Charset × Bytes)
  | 0xEF :: 0xBB :: 0xBF :: rest => some (.utf8, rest)
  | 0xFE :: 0xFF :: rest => some (.utf16BigEndian, rest)
  | 0xFF :: 0xFE :: rest => some (.utf16LittleEndian, rest)
  | _ => none

/-- The charset that the value of a content type names. -/
def ofContentType? (value : Bytes) : Option Charset :=
  if value.all fun b => b = 0x09 || (0x20 ≤ b && b < 0x7F) then
    match MediaType.readBytes value with
    | .ok reading =>
      (reading.parameter? MediaType.charsetName).bind fun label =>
        ofLabel? (Text.ofAscii label)
    | .error _ => none
  else none

/-- The text of a body. Octets behind a mark of UTF-8 of which none has to be replaced are taken as
they are, with their mark. -/
def bodyText (contentType : Option Bytes) (octets : Bytes) : Text :=
  match byMark? octets with
  | some (.utf8, rest) => (Utf8.decode? octets).getD (Utf8.decodeLossy rest)
  | some (charset, rest) => charset.decode rest
  | none => ((contentType.bind ofContentType?).getD .utf8).decode octets

end Charset

end UploadProbe
