import UploadProbe.Url.DomainMapping
import UploadProbe.Url.HostMapping
import UploadProbe.Url.Punycode
import UploadProbe.Text.Unprintable
import UploadProbe.Text.Utf8

/-!
# A mapping of domain names

This is the mapping that the program is run with where the library is not at hand. Every label is
brought into small letters, and one that holds other characters than those of ASCII into Punycode
behind the mark `xn--`. A name with a character that no domain has, or with a label whose Punycode
is not the form of any label, is refused. Of the rules for internationalized names this covers a
part only: characters that stand for several others, normal forms of composed characters and the
rules for joiners and for the direction of writing are left out. So nothing is proved of it but the
laws of a mapping.
-/

namespace UploadProbe.Domain

/-- What one character contributes: nothing, another character or itself. -/
def mapChar (c : Char) : Text :=
  if c < '\x80' then [Text.lowerChar c]
  else if Unprintable.inRanges DomainMapping.droppedRanges c.toNat then []
  else
    match DomainMapping.replacement? c.toNat with
    | some scalar => [Char.ofNat scalar]
    | none => [c]

/-- Whether a character may stand in a label once it has been mapped. -/
def isLabelChar (c : Char) : Bool :=
  if c < '\x80' then !isForbidden c && !('A' ≤ c && c ≤ 'Z')
  else mapChar c = [c] && !Unprintable.isHidden c.toNat && c ≠ '\uFFFD'

/-- Whether a label that has been mapped is one. -/
def isLabel (label : Text) : Bool :=
  label.all isLabelChar && label.head?.all fun c => !Unprintable.isExtending c.toNat

/-- The ASCII form of a label that has been mapped. -/
def labelToAscii? (label : Text) : Option Text :=
  if mark.isPrefixOf label then
    match Punycode.decode? (label.drop mark.length) with
    | some decoded =>
      if isLabel decoded && decoded.any ('\x80' ≤ ·) &&
          Punycode.encode decoded = label.drop mark.length then some label
      else none
    | none => none
  else if !isLabel label then none
  else if label.all (· < '\x80') then some label
  else some (mark ++ Punycode.encode label)

/-- The ASCII form of a name that is not plain. -/
def mapped? (octets : Bytes) : Option Text := do
  let text ← Utf8.decode? octets
  let labels ← (Text.splitOn '.' (text.flatMap mapChar)).mapM labelToAscii?
  return Text.joinWith ['.'] labels

/-- The ASCII form of a domain name, of which the octets are given. -/
def toAscii? (octets : Bytes) : Option Text :=
  if isPlain octets then some (Text.ofAscii octets) else (mapped? octets).filter (·.all isAllowed)

theorem isAllowed_of_isPlain {octets : Bytes} (plain : isPlain octets = true) :
    (Text.ofAscii octets).all isAllowed = true := by
  simp only [isPlain, Bool.and_eq_true, List.all_eq_true] at plain ⊢
  exact fun c isMember => (plain.1.2 c isMember).1

theorem isAllowed_of_toAscii? {octets : Bytes} {name : Text}
    (isAscii : toAscii? octets = some name) : name.all isAllowed = true := by
  unfold toAscii? at isAscii
  split at isAscii
  · next plain => exact Option.some.inj isAscii ▸ isAllowed_of_isPlain plain
  · exact (Option.filter_eq_some_iff.mp isAscii).2

end UploadProbe.Domain
