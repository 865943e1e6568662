import UploadProbe.Url.Percent

/-!
# Forms with one part

A sample travels as the only part of a form. The part stands between two lines made of a boundary;
its head names the form field, the file and the content type, and an empty line separates the head
from the data. What surrounds the data does not depend on it, so the length of the whole is known
before the data are read.
-/

namespace UploadProbe

/-- Four words that are drawn at random for each form. -/
structure Boundary where
  first : UInt64
  second : UInt64
  third : UInt64
  fourth : UInt64
deriving DecidableEq, Repr

/-- The text of a boundary: its words in 16 hexadecimal digits each, with hyphens between them. -/
def Boundary.text (boundary : Boundary) : Text :=
  Text.joinWith ['-']
    ([boundary.first, boundary.second, boundary.third, boundary.fourth].map fun word =>
      Text.hexWord 16 word.toNat)

theorem Boundary.length_text (boundary : Boundary) : boundary.text.length = 67 := by
  simp [text, Text.joinWith]

/-- What the head of a part tells. -/
structure FormPart where
  field : Text
  fileName : Text
  /-- The content type, as it is announced. -/
  mediaType : Bytes
deriving DecidableEq, Repr

namespace FormPart

def lineEnd : Text := ['\r', '\n']

/-- Whether the name of a form field stands between quotes. A single octet stands there even if it
has to be encoded. -/
def standsInQuotes (field : Text) : Bool :=
  match field with
  | [c] => c < '\x80' || !Percent.segmentSet c
  | _ => !field.any Percent.segmentSet

def fieldParameter (field : Text) : Text :=
  if standsInQuotes field then
    "name=\"".toList ++ Percent.encode Percent.segmentSet field ++ ['"']
  else "name*=utf-8''".toList ++ Percent.encode Percent.segmentSet field

/-- A character of a file name as it stands between quotes. -/
def escape (c : Char) : Text :=
  if c = '\\' || c = '"' || c = '\r' || c = '\n' then ['\\', c] else [c]

def fileNameParameter (fileName : Text) : Text :=
  "filename=\"".toList ++ fileName.flatMap escape ++ ['"']

/-- The line that tells the form field and the file name. -/
def disposition (part : FormPart) : Text :=
  "Content-Disposition: form-data; ".toList ++ fieldParameter part.field ++ "; ".toList ++
    fileNameParameter part.fileName

/-- The two lines of the head, without the end of the second one. -/
def head (part : FormPart) : Bytes :=
  Utf8.encode (part.disposition ++ lineEnd ++ "Content-Type: ".toList) ++ part.mediaType

/-- What stands in front of the data. -/
def opening (boundary : Boundary) (part : FormPart) : Bytes :=
  Bytes.ofAscii ("--".toList ++ boundary.text ++ lineEnd) ++ part.head ++
    Bytes.ofAscii (lineEnd ++ lineEnd)

def closing (boundary : Boundary) : Bytes :=
  Bytes.ofAscii (lineEnd ++ "--".toList ++ boundary.text ++ "--".toList ++ lineEnd)

/-- The whole form around some data. -/
def framed (boundary : Boundary) (part : FormPart) (data : Bytes) : Bytes :=
  part.opening boundary ++ data ++ closing boundary

/-- Lengths are counted in words that hold numbers below this one. -/
def lengthModulus : Nat := Nat.pow 2 64

/-- The length of the whole form around data of a given length, as a word counts it. -/
def framedLength (boundary : Boundary) (part : FormPart) (length : Nat) : Nat :=
  ((part.opening boundary).length + length + (closing boundary).length) % lengthModulus

theorem length_framed (boundary : Boundary) (part : FormPart) (data : Bytes)
    (countable :
      (part.opening boundary).length + data.length + (closing boundary).length < lengthModulus) :
    (part.framed boundary data).length = part.framedLength boundary data.length := by
  simp only [framed, framedLength, List.length_append]
  exact (Nat.mod_eq_of_lt countable).symm

/-- The content type of the whole form. -/
def formType (boundary : Boundary) : Text :=
  "multipart/form-data; boundary=".toList ++ boundary.text

end FormPart

end UploadProbe
