import UploadProbe.Text.Basic

/-!
# From the names of machines to ASCII

The name of a machine may be written in any script. Its ASCII form, in which it is asked for and
compared, is laid down by the rules for internationalized names, with tables of Unicode that a
library brings along. What is read of a URL and where a redirection leads depend on that form, so
the library's mapping is a parameter here, and what is relied on are two laws of it.
-/

namespace UploadProbe

namespace Domain

/-- ASCII characters that the name of a machine may not hold. -/
def isForbidden (c : Char) : Bool :=
  c ≤ ' ' || c = '\x7f' ||
    ['#', '/', ':', '<', '>', '?', '@', '[', '\\', ']', '^', '|', '%'].contains c

/-- Whether an ASCII form may hold a character. -/
def isAllowed (c : Char) : Bool :=
  c < '\x80' && !isForbidden c

/-- The mark in front of a label that stands for one with other characters than those of ASCII. -/
def mark : Text := "xn--".toList

/-- Whether octets are a name that is its own ASCII form already: one without a character that a
name may not hold, without capital letters and without a marked label. -/
def isPlain (octets : Bytes) : Bool :=
  octets.all (· < 0x80) &&
    (Text.ofAscii octets).all (fun c => isAllowed c && !('A' ≤ c && c ≤ 'Z')) &&
    (Text.splitOn '.' (Text.ofAscii octets)).all fun label => !mark.isPrefixOf label

end Domain

/-- A mapping of the names of machines to their ASCII forms. -/
class HostMapping where
  /-- The ASCII form of a name, of which the octets are given, if it is the name of a machine. -/
  toAscii? : Bytes → Option Text
  /-- A plain name is accepted as it is. -/
  toAscii?_of_isPlain : ∀ octets, Domain.isPlain octets = true →
    toAscii? octets = some (Text.ofAscii octets)
  /-- A form is ASCII and holds no character that a name may not hold. -/
  isAllowed_of_toAscii? : ∀ octets name, toAscii? octets = some name →
    ∀ c ∈ name, Domain.isAllowed c = true

end UploadProbe
