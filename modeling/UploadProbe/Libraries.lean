import UploadProbe.Charset.Decoding
import UploadProbe.Url.Domain

/-!
# What the program is run with in the place of its libraries

The mapping of the names of machines and the decoder of the charsets with several octets for a
character are parameters of everything that is built on them. To be run, the program takes a mapping
that covers a part of the names in other scripts, and a decoder without any table.
-/

namespace UploadProbe

instance : HostMapping where
  toAscii? := Domain.toAscii?
  toAscii?_of_isPlain _ plain := if_pos plain
  isAllowed_of_toAscii? _ _ isAscii := List.all_eq_true.mp (Domain.isAllowed_of_toAscii? isAscii)

namespace MultibyteCharset

/-- The text of octets for a reader without any table: what is not ASCII cannot be read. -/
def decodeAscii (octets : Bytes) : Text :=
  octets.map (Charset.decodeByte [])

theorem decodeAscii_of_isPlain {octets : Bytes} (plain : octets.all isPlain = true) :
    decodeAscii octets = Text.ofAscii octets :=
  List.map_congr_left fun b isMember => if_pos (isAscii_of_isPlain plain b isMember)

end MultibyteCharset

instance : MultibyteDecoding where
  decode _ := MultibyteCharset.decodeAscii
  decode_of_isPlain _ _ := MultibyteCharset.decodeAscii_of_isPlain

end UploadProbe
