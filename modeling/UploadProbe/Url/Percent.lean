import UploadProbe.Text.Utf8

/-!
# Percent-encoding

A character that may not stand in some part of a URL is replaced by its octets, each as a percent
sign and two capital hexadecimal digits. Every part has its own set of such characters; characters
past ASCII belong to all of them.
-/

namespace UploadProbe.Percent

def digit (value : Nat) : Char :=
  if value < 10 then Char.ofNat ('0'.toNat + value) else Char.ofNat ('A'.toNat + (value - 10))

def octet (b : UInt8) : Text :=
  ['%', digit (b.toNat / 16), digit (b.toNat % 16)]

/-- A text with the characters of a set encoded. -/
def encode (encoded : Char → Bool) (text : Text) : Text :=
  text.flatMap fun c => if encoded c then (String.utf8EncodeChar c).flatMap octet else [c]

/-- The octets of a text, with encoded ones taken back; a percent sign that is followed by anything
but two digits stands for itself. -/
def decode : Text → Bytes
  | [] => []
  | '%' :: high :: low :: rest =>
    match Text.hexDigit? high, Text.hexDigit? low with
    | some high, some low => UInt8.ofNat (high * 16 + low) :: decode rest
    | _, _ => Bytes.ascii '%' :: decode (high :: low :: rest)
  | c :: rest => String.utf8EncodeChar c ++ decode rest

/-- Control characters and everything past ASCII. -/
def controls (c : Char) : Bool :=
  c < ' ' || '~' < c

/-- What a fragment may not hold. -/
def fragmentSet (c : Char) : Bool :=
  controls c || [' ', '"', '<', '>', '`'].contains c

/-- What a query may not hold. -/
def querySet (c : Char) : Bool :=
  controls c || [' ', '"', '#', '<', '>'].contains c

/-- What the query of a special scheme may not hold. -/
def specialQuerySet (c : Char) : Bool :=
  querySet c || c = '\''

/-- What a path may not hold. -/
def pathSet (c : Char) : Bool :=
  fragmentSet c || ['#', '?', '\x7b', '\x7d'].contains c

/-- What a user name or password may not hold. -/
def userinfoSet (c : Char) : Bool :=
  pathSet c || ['/', ':', ';', '=', '@', '[', '\\', ']', '^', '|'].contains c

/-- What a single segment of a path may not hold. -/
def segmentSet (c : Char) : Bool :=
  pathSet c || c = '/' || c = '%'

end UploadProbe.Percent
