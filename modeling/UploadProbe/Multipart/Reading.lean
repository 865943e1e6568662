import UploadProbe.Multipart

/-!
# Reading forms

What a server reads in a form with one part: the lines of the boundary are taken off, the head is
split at the first end of a line, and the two parameters are taken back out of their quotes or their
encoding. Nothing but the boundary has to be known in advance.
-/

namespace UploadProbe.FormPart

/-- The text up to a quote that no backslash stands in front of, with the backslashes taken away,
and what follows the quote. -/
def readQuoted? : Text → Option (Text × Text)
  | [] => none
  | '"' :: rest => some ([], rest)
  | '\\' :: c :: rest => (readQuoted? rest).map fun (read, behind) => (c :: read, behind)
  | c :: rest => (readQuoted? rest).map fun (read, behind) => (c :: read, behind)

/-- The text behind a known beginning. -/
def behind? {Element : Type} [DecidableEq Element] :
    (beginning text : List Element) → Option (List Element)
  | [], text => some text
  | _ :: _, [] => none
  | expected :: beginning, found :: text =>
    if expected = found then behind? beginning text else none

/-- The text in front of a known ending. -/
def before? {Element : Type} [DecidableEq Element] (ending text : List Element) :
    Option (List Element) :=
  (behind? ending.reverse text.reverse).map List.reverse

/-- The octets in front of the first end of a line, and those behind it. -/
def cutLine : Bytes → Bytes × Option Bytes
  | [] => ([], none)
  | 0x0D :: 0x0A :: rest => ([], some rest)
  | octet :: rest =>
    let (line, behind) := cutLine rest
    (octet :: line, behind)

/-- The name of the form field, and what follows its parameter. An encoded name holds no blank, so
the first one comes behind the semicolon that ends it. -/
def readField? (text : Text) : Option (Text × Text) :=
  match behind? "name=\"".toList text with
  | some quoted =>
    match Text.cutAt (· = '"') quoted with
    | (field, some rest) => some (field, rest)
    | (_, none) => none
  | none => do
    let encoded ← behind? "name*=utf-8''".toList text
    let (octets, rest) := Text.span (· ≠ ' ') encoded
    let field ← Utf8.decode? (Percent.decode octets.dropLast)
    return (field, ';' :: rest)

/-- The names of the form field and the file that a line tells. -/
def readDisposition? (line : Text) : Option (Text × Text) := do
  let parameters ← behind? "Content-Disposition: form-data; ".toList line
  let (field, rest) ← readField? parameters
  let quoted ← behind? "; filename=\"".toList rest
  match ← readQuoted? quoted with
  | (fileName, []) => return (field, fileName)
  | _ => none

/-- The part and the data of a form. -/
def read? (boundary : Boundary) (form : Bytes) : Option (FormPart × Bytes) := do
  let inner ← before? (closing boundary)
    (← behind? (Bytes.ofAscii ("--".toList ++ boundary.text ++ lineEnd)) form)
  let (dispositionLine, some rest) := cutLine inner | none
  let (typeLine, some rest) := cutLine rest | none
  let data ← behind? (Bytes.ofAscii lineEnd) rest
  let (field, fileName) ← readDisposition? (← Utf8.decode? dispositionLine)
  let mediaType ← behind? (Bytes.ofAscii "Content-Type: ".toList) typeLine
  return (⟨field, fileName, mediaType⟩, data)

end UploadProbe.FormPart
