import UploadProbe.Json.Basic

/-!
# Reading JSON

Every reader takes the text at its place and gives what it read together with the rest of the
text. The readers for values, for the elements of an array and for the members of an object call
each other; each call uses up one unit of a budget that `Json.read?` makes large enough for any
text, because between two visits to the same place at most one value begins.
-/

namespace UploadProbe.Json

def isBlank (c : Char) : Bool :=
  c = ' ' || c = '\t' || c = '\n' || c = '\r'

def skipBlanks (text : Text) : Text :=
  text.dropWhile isBlank

/-- The character that a backslash and this letter stand for. -/
def escapedChar? (letter : Char) : Option Char :=
  match letter with
  | '"' => some '"'
  | '\\' => some '\\'
  | '/' => some '/'
  | 'b' => some '\x08'
  | 'f' => some '\x0c'
  | 'n' => some '\n'
  | 'r' => some '\r'
  | 't' => some '\t'
  | _ => none

def codeUnit? (a b c d : Char) : Option Nat := do
  let a ← Text.hexDigit? a
  let b ← Text.hexDigit? b
  let c ← Text.hexDigit? c
  let d ← Text.hexDigit? d
  return ((a * 16 + b) * 16 + c) * 16 + d

/-- Puts one more piece in front of a string that has been read. -/
def consPiece (piece : Piece) (read : RawString × Text) : RawString × Text :=
  (piece :: read.1, read.2)

/-- Reads a string from behind its opening quote to behind its closing one. -/
def readString? : Text → Option (RawString × Text)
  | [] => none
  | '"' :: rest => some ([], rest)
  | ['\\'] => none
  | '\\' :: 'u' :: a :: b :: c :: d :: rest =>
    match codeUnit? a b c d with
    | some code => (readString? rest).map (consPiece (.unit code))
    | none => none
  | '\\' :: letter :: rest =>
    match escapedChar? letter with
    | some c => (readString? rest).map (consPiece (.escaped c))
    | none => none
  | c :: rest => if c < ' ' then none else (readString? rest).map (consPiece (.plain c))

def readDigits? (text : Text) : Option (Text × Text) :=
  let (digits, rest) := Text.span Char.isDigit text
  if digits.isEmpty then none else some (digits, rest)

/-- Reads the part of a number before the point: a zero, or digits that do not begin with one. -/
def readWhole? : Text → Option (Text × Text)
  | '0' :: rest =>
    match rest with
    | c :: _ => if c.isDigit then none else some (['0'], rest)
    | [] => some (['0'], rest)
  | text => readDigits? text

/-- Reads a point and digits, or nothing. -/
def readFraction? : Text → Option (Text × Text)
  | '.' :: rest => (readDigits? rest).map fun (digits, rest) => ('.' :: digits, rest)
  | text => some ([], text)

/-- Reads the letter, sign and digits of a power of ten, or nothing. -/
def readPower? : Text → Option (Text × Text)
  | c :: rest =>
    if c = 'e' ∨ c = 'E' then
      match rest with
      | sign :: afterSign =>
        if sign = '+' ∨ sign = '-' then
          (readDigits? afterSign).map fun (digits, rest) => (c :: sign :: digits, rest)
        else (readDigits? rest).map fun (digits, rest) => (c :: digits, rest)
      | [] => none
    else some ([], c :: rest)
  | [] => some ([], [])

def readUnsigned? (text : Text) : Option (Text × Text) := do
  let (whole, afterWhole) ← readWhole? text
  let (fraction, afterFraction) ← readFraction? afterWhole
  let (power, rest) ← readPower? afterFraction
  return (whole ++ fraction ++ power, rest)

def readNumber? : Text → Option (Text × Text)
  | '-' :: rest => (readUnsigned? rest).map fun (lexeme, rest) => ('-' :: lexeme, rest)
  | text => readUnsigned? text

def readWord? (text : Text) : Option (Json × Text) :=
  if "null".toList.isPrefixOf text then some (.null, text.drop 4)
  else if "true".toList.isPrefixOf text then some (.bool true, text.drop 4)
  else if "false".toList.isPrefixOf text then some (.bool false, text.drop 5)
  else none

def readName? : Text → Option (RawString × Text)
  | '"' :: rest =>
    match readString? rest with
    | some (name, rest) =>
      match skipBlanks rest with
      | ':' :: rest => some (name, rest)
      | _ => none
    | none => none
  | _ => none

mutual

/-- Reads a value, which may have blanks before it. -/
def readValue? : (budget : Nat) → Text → Option (Json × Text)
  | 0, _ => none
  | budget + 1, text =>
    match skipBlanks text with
    | '"' :: rest => (readString? rest).map fun (raw, rest) => (.string raw, rest)
    | '[' :: rest =>
      match skipBlanks rest with
      | ']' :: rest => some (.array [], rest)
      | rest => (readElements? budget rest).map fun (elements, rest) => (.array elements, rest)
    | '{' :: rest =>
      match skipBlanks rest with
      | '}' :: rest => some (.object [], rest)
      | rest => (readMembers? budget rest).map fun (members, rest) => (.object members, rest)
    | text =>
      match readWord? text with
      | some read => some read
      | none => (readNumber? text).map fun (lexeme, rest) => (.number lexeme, rest)

/-- Reads elements up to the bracket that closes their array. -/
def readElements? : (budget : Nat) → Text → Option (List Json × Text)
  | 0, _ => none
  | budget + 1, text =>
    match readValue? budget text with
    | some (element, rest) =>
      match skipBlanks rest with
      | ']' :: rest => some ([element], rest)
      | ',' :: rest =>
        (readElements? budget rest).map fun (elements, rest) => (element :: elements, rest)
      | _ => none
    | none => none

/-- Reads members up to the brace that closes their object. -/
def readMembers? : (budget : Nat) → Text → Option (List (RawString × Json) × Text)
  | 0, _ => none
  | budget + 1, text =>
    match readName? (skipBlanks text) with
    | some (name, rest) =>
      match readValue? budget rest with
      | some (value, rest) =>
        match skipBlanks rest with
        | '}' :: rest => some ([(name, value)], rest)
        | ',' :: rest =>
          (readMembers? budget rest).map fun (members, rest) => ((name, value) :: members, rest)
        | _ => none
      | none => none
    | none => none

end

/-- The budget that suffices for a text. -/
def budgetFor (text : Text) : Nat :=
  2 * text.length + 2

/-- Reads a whole text as one value with blanks around it. -/
def read? (text : Text) : Option Json :=
  match readValue? (budgetFor text) text with
  | some (value, rest) => if (skipBlanks rest).isEmpty then some value else none
  | none => none

end UploadProbe.Json
