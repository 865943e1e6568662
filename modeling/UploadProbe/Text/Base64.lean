import UploadProbe.Text.Basic

/-!
# Base64

Three octets become four characters of an alphabet of 64. A last group of one or two octets is
filled up with equals signs.
-/

namespace UploadProbe.Base64

/-- The characters in the order of their values. -/
def alphabet : Text :=
  "ABCDEFGHIJKLMNOPQRSTUVWXYZabcdefghijklmnopqrstuvwxyz0123456789+/".toList

def digit (value : Nat) : Char :=
  alphabet.getD value 'A'

/-- The character that fills the last group. -/
def filler : Char := '='

/-- The text of a byte string. -/
def encode : Bytes → Text
  | [] => []
  | [a] => [digit (a.toNat / 4), digit (a.toNat % 4 * 16), filler, filler]
  | [a, b] =>
    [digit (a.toNat / 4), digit (a.toNat % 4 * 16 + b.toNat / 16), digit (b.toNat % 16 * 4),
      filler]
  | a :: b :: c :: rest =>
    digit (a.toNat / 4) :: digit (a.toNat % 4 * 16 + b.toNat / 16) ::
      digit (b.toNat % 16 * 4 + c.toNat / 64) :: digit (c.toNat % 64) :: encode rest

end UploadProbe.Base64
