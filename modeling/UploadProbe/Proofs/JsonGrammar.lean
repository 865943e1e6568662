import Mathlib
import UploadProbe.Json.Parser

/-!
# The grammar of JSON

How the values of JSON are written, apart from any reader: what a string may be spelled with and
which text its spelling tells, what a number consists of, and where blanks may stand between the
parts of arrays and objects. The parts of a text are written one inside the other, so a value, the
elements of an array and the members of an object are derived by one relation.
-/

namespace UploadProbe.Json

def AreBlanks (text : Text) : Prop :=
  ∀ c ∈ text, c = ' ' ∨ c = '\t' ∨ c = '\n' ∨ c = '\r'

/-- The letters that stand for a character behind a backslash, and those characters. -/
def escapes : List (Char × Char) :=
  [('"', '"'), ('\\', '\\'), ('/', '/'), ('b', '\x08'), ('f', '\x0c'), ('n', '\n'), ('r', '\r'),
    ('t', '\t')]

/-- Whether four digits are the hexadecimal number of a code unit. -/
def IsCodeUnit (first second third fourth : Char) (code : Nat) : Prop :=
  ∃ a b c d, Text.hexDigit? first = some a ∧ Text.hexDigit? second = some b ∧
    Text.hexDigit? third = some c ∧ Text.hexDigit? fourth = some d ∧
    code = a * 16 ^ 3 + b * 16 ^ 2 + c * 16 + d

namespace RawString

/-- How the pieces of a string are spelled between its quotes. -/
inductive IsSpelled : RawString → Text → Prop
  | nil : IsSpelled [] []
  | plain {c : Char} {raw : RawString} {text : Text} (notQuote : c ≠ '"') (notBackslash : c ≠ '\\')
      (notControl : ' ' ≤ c) (spelled : IsSpelled raw text) :
      IsSpelled (.plain c :: raw) (c :: text)
  | escaped {letter c : Char} {raw : RawString} {text : Text} (escape : (letter, c) ∈ escapes)
      (spelled : IsSpelled raw text) : IsSpelled (.escaped c :: raw) ('\\' :: letter :: text)
  | unit {a b c d : Char} {code : Nat} {raw : RawString} {text : Text}
      (codeUnit : IsCodeUnit a b c d code) (spelled : IsSpelled raw text) :
      IsSpelled (.unit code :: raw) ('\\' :: 'u' :: a :: b :: c :: d :: text)

/-- Which text a string tells. A code unit of a surrogate pair only tells something together with
the other one. -/
inductive Tells : RawString → Text → Prop
  | nil : Tells [] []
  | plain {c : Char} {raw : RawString} {text : Text} (tells : Tells raw text) :
      Tells (.plain c :: raw) (c :: text)
  | escaped {c : Char} {raw : RawString} {text : Text} (tells : Tells raw text) :
      Tells (.escaped c :: raw) (c :: text)
  | scalar {code : Nat} {raw : RawString} {text : Text} (single : code < 0xD800 ∨ 0xE000 ≤ code)
      (tells : Tells raw text) : Tells (.unit code :: raw) (Char.ofNat code :: text)
  | pair {leading trailing : Nat} {raw : RawString} {text : Text}
      (isLeading : 0xD800 ≤ leading ∧ leading < 0xDC00)
      (isTrailing : 0xDC00 ≤ trailing ∧ trailing < 0xE000) (tells : Tells raw text) :
      Tells (.unit leading :: .unit trailing :: raw)
        (Char.ofNat (0x10000 + (leading - 0xD800) * 0x400 + (trailing - 0xDC00)) :: text)

end RawString

def IsDigits (text : Text) : Prop :=
  text ≠ [] ∧ ∀ c ∈ text, c.isDigit = true

/-- A zero, or digits of which the first is not a zero. -/
def IsWhole (text : Text) : Prop :=
  text = ['0'] ∨ IsDigits text ∧ text.head? ≠ some '0'

def IsFraction (text : Text) : Prop :=
  text = [] ∨ ∃ digits, IsDigits digits ∧ text = '.' :: digits

def IsPower (text : Text) : Prop :=
  text = [] ∨ ∃ letter sign digits, (letter = 'e' ∨ letter = 'E') ∧
    (sign = [] ∨ sign = ['+'] ∨ sign = ['-']) ∧ IsDigits digits ∧
    text = letter :: (sign ++ digits)

def IsUnsigned (text : Text) : Prop :=
  ∃ whole fraction power, IsWhole whole ∧ IsFraction fraction ∧ IsPower power ∧
    text = whole ++ fraction ++ power

def IsNumber (text : Text) : Prop :=
  IsUnsigned text ∨ ∃ unsigned, IsUnsigned unsigned ∧ text = '-' :: unsigned

/-- What a stretch of a text can be. -/
inductive Phrase where
  | value (json : Json)
  /-- The elements of an array, with their commas and the blanks around them. -/
  | elements (elements : List Json)
  | members (members : List (RawString × Json))

/-- The name of a member with its colon, and blanks around it. -/
def IsMemberName (raw : RawString) (text : Text) : Prop :=
  ∃ before spelling behind, AreBlanks before ∧ AreBlanks behind ∧ raw.IsSpelled spelling ∧
    text = before ++ '"' :: (spelling ++ '"' :: (behind ++ [':']))

/-- How values and their parts are written. -/
inductive IsWritten : Phrase → Text → Prop
  | null : IsWritten (.value .null) "null".toList
  | true : IsWritten (.value (.bool true)) "true".toList
  | false : IsWritten (.value (.bool false)) "false".toList
  | number {lexeme : Text} (isNumber : IsNumber lexeme) :
      IsWritten (.value (.number lexeme)) lexeme
  | string {raw : RawString} {spelling : Text} (spelled : raw.IsSpelled spelling) :
      IsWritten (.value (.string raw)) ('"' :: (spelling ++ ['"']))
  | emptyArray {blanks : Text} (areBlanks : AreBlanks blanks) :
      IsWritten (.value (.array [])) ('[' :: (blanks ++ [']']))
  | array {elements : List Json} {text : Text} (written : IsWritten (.elements elements) text) :
      IsWritten (.value (.array elements)) ('[' :: (text ++ [']']))
  | emptyObject {blanks : Text} (areBlanks : AreBlanks blanks) :
      IsWritten (.value (.object [])) ('\x7b' :: (blanks ++ ['\x7d']))
  | object {members : List (RawString × Json)} {text : Text}
      (written : IsWritten (.members members) text) :
      IsWritten (.value (.object members)) ('\x7b' :: (text ++ ['\x7d']))
  | element {json : Json} {before text behind : Text} (blanksBefore : AreBlanks before)
      (blanksBehind : AreBlanks behind) (written : IsWritten (.value json) text) :
      IsWritten (.elements [json]) (before ++ (text ++ behind))
  | elements {json : Json} {others : List Json} {before text behind more : Text}
      (blanksBefore : AreBlanks before) (blanksBehind : AreBlanks behind)
      (written : IsWritten (.value json) text) (further : IsWritten (.elements others) more) :
      IsWritten (.elements (json :: others)) (before ++ (text ++ (behind ++ ',' :: more)))
  | member {raw : RawString} {json : Json} {name before text behind : Text}
      (isName : IsMemberName raw name) (blanksBefore : AreBlanks before)
      (blanksBehind : AreBlanks behind) (written : IsWritten (.value json) text) :
      IsWritten (.members [(raw, json)]) (name ++ (before ++ (text ++ behind)))
  | members {raw : RawString} {json : Json} {others : List (RawString × Json)}
      {name before text behind more : Text} (isName : IsMemberName raw name)
      (blanksBefore : AreBlanks before) (blanksBehind : AreBlanks behind)
      (written : IsWritten (.value json) text) (further : IsWritten (.members others) more) :
      IsWritten (.members ((raw, json) :: others))
        (name ++ (before ++ (text ++ (behind ++ ',' :: more))))

/-- Whether a text is one value, perhaps with blanks around it. -/
def IsTextOf (json : Json) (text : Text) : Prop :=
  ∃ before inner behind, AreBlanks before ∧ AreBlanks behind ∧ IsWritten (.value json) inner ∧
    text = before ++ (inner ++ behind)

end UploadProbe.Json
