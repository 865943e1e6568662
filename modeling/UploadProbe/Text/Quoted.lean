import UploadProbe.Text.Basic
import UploadProbe.Text.Unprintable

/-!
# Quoted text

Text between quotes, in which quotes, backslashes and the usual control characters have a backslash
in front, and everything else that cannot be shown is named by its number in braces.
-/

namespace UploadProbe.Quoted

/-- One character as it stands between quotes. -/
def escape (c : Char) : Text :=
  match c with
  | '\x00' => "\\0".toList
  | '\t' => "\\t".toList
  | '\n' => "\\n".toList
  | '\r' => "\\r".toList
  | '"' => "\\\"".toList
  | '\\' => "\\\\".toList
  | c =>
    if (' ' ≤ c && c < '\x7f') ||
        ('\x7f' < c && !Unprintable.isHidden c.toNat && !Unprintable.isExtending c.toNat) then [c]
    else "\\u".toList ++ '\x7b' :: Text.ofNatHex c.toNat ++ ['\x7d']

def quote (text : Text) : Text :=
  '"' :: text.flatMap escape ++ ['"']

/-- A text that may be missing, marked as such. -/
def quoteOption : Option Text → Text
  | some text => "Some(".toList ++ quote text ++ ")".toList
  | none => "None".toList

end UploadProbe.Quoted
