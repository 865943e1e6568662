import UploadProbe.Text.Basic

/-!
# Charsets with several octets for a character

In the charsets of Chinese, Japanese and Korean a character may take several octets. What they stand
for is laid down by tables of many thousand characters that a library brings along. What is said of
an answer holds whatever the tables are, so the library's decoder is a parameter here, and what is
relied on is one law of it.
-/

namespace UploadProbe

/-- A charset in which a character may take several octets. -/
inductive MultibyteCharset where
  | gbk
  | gb18030
  | big5
  | eucJp
  | iso2022Jp
  | shiftJis
  | eucKr
deriving DecidableEq, Repr

/-- Whether an octet is a character of ASCII, and none that shifts a reader to other characters. -/
def MultibyteCharset.isPlain (b : UInt8) : Bool :=
  b < 0x80 && b ≠ 0x0E && b ≠ 0x0F && b ≠ 0x1B

theorem MultibyteCharset.isAscii_of_isPlain {octets : Bytes} (plain : octets.all isPlain = true) :
    ∀ b ∈ octets, b < 0x80 := by
  intro b isMember
  have isPlain := List.all_eq_true.mp plain b isMember
  simp only [MultibyteCharset.isPlain, Bool.and_eq_true, decide_eq_true_eq] at isPlain
  exact isPlain.1.1.1

/-- A way to read these charsets. -/
class MultibyteDecoding where
  /-- The text of octets, with the replacement character for what cannot be read. -/
  decode : MultibyteCharset → Bytes → Text
  /-- Plain octets stand for themselves. -/
  decode_of_isPlain : ∀ charset octets, octets.all MultibyteCharset.isPlain = true →
    decode charset octets = Text.ofAscii octets

end UploadProbe
