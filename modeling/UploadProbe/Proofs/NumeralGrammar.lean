import Mathlib
import UploadProbe.Timeout.Numeral

/-!
# The grammar of numerals

A numeral is a sign, if any, and one of the words or a decimal number in its parts. Reading a text
gives a numeral exactly if the text is written like that, and gives the number of its digits. The
exponent is the only part that can be misread, and it is counted in full below `exponentReach`.
-/

namespace UploadProbe

namespace Numeral

/-- What stands in front of a numeral. -/
inductive Sign where
  | absent
  | plus
  | minus
deriving DecidableEq, Repr

namespace Sign

def text : Sign → Text
  | .absent => []
  | .plus => ['+']
  | .minus => ['-']

def isMinus (sign : Sign) : Bool :=
  sign = .minus

/-- A number with the sign in front of it. -/
def apply {Number : Type} [Neg Number] (sign : Sign) (number : Number) : Number :=
  if sign.isMinus then -number else number

end Sign

/-- An exponent as it is written behind the digits. -/
structure Exponent where
  mark : Char
  sign : Sign
  digits : Text
  isMark : mark = 'e' ∨ mark = 'E'
  areDigits : ∀ c ∈ digits, c.isDigit = true
  nonempty : digits ≠ []

namespace Exponent

variable (exponent : Exponent)

def text : Text :=
  exponent.mark :: (exponent.sign.text ++ exponent.digits)

/-- The power of ten that the exponent stands for. -/
def power : ℤ :=
  exponent.sign.apply (Text.decimalValue exponent.digits : ℤ)

/-- The power of ten as far as it is counted. -/
def counted : ℤ :=
  exponent.sign.apply (exponentValue exponent.digits : ℤ)

end Exponent

/-- A decimal number in its parts, as it is written. -/
structure Decimal where
  sign : Sign
  whole : Text
  /-- The digits behind the point, if there is a point. -/
  fraction : Option Text
  exponent : Option Exponent
  areDigits : ∀ c ∈ whole ++ fraction.getD [], c.isDigit = true
  nonempty : whole ++ fraction.getD [] ≠ []

namespace Decimal

variable (decimal : Decimal)

/-- The number without its sign. -/
def unsigned : Text :=
  decimal.whole ++ decimal.fraction.elim [] ('.' :: ·) ++ decimal.exponent.elim [] Exponent.text

def text : Text :=
  decimal.sign.text ++ decimal.unsigned

def significand : ℕ :=
  Text.decimalValue (decimal.whole ++ decimal.fraction.getD [])

/-- How many digits stand behind the point. -/
def places : ℕ :=
  (decimal.fraction.getD []).length

/-- The number that is written, with the exponent that it has. -/
def number : ℚ :=
  decimal.sign.apply
    (decimal.significand * 10 ^ (decimal.exponent.elim 0 Exponent.power - decimal.places))

/-- The power of ten of the last digit, as far as the exponent is counted. -/
def countedPower : ℤ :=
  decimal.exponent.elim 0 Exponent.counted - decimal.places

/-- The number that is read, with the exponent as far as it is counted. -/
def countedNumber : ℚ :=
  decimal.sign.apply (decimal.significand * 10 ^ decimal.countedPower)

end Decimal

/-- Whether a text is written as a numeral. -/
inductive IsWritten : Numeral → Text → Prop where
  | infinite (sign : Sign) {word : Text} (isWord : Text.lower word ∈ infinityWords) :
      IsWritten (.infinite sign.isMinus) (sign.text ++ word)
  | notANumber (sign : Sign) {word : Text} (isWord : Text.lower word = notANumberWord) :
      IsWritten .notANumber (sign.text ++ word)
  | finite (decimal : Decimal) :
      IsWritten (.finite decimal.sign.isMinus decimal.significand decimal.countedPower) decimal.text

/-- Whether a text cannot be taken for one with a sign. -/
def BeginsUnsigned (text : Text) : Prop :=
  text.head? ≠ some '-' ∧ text.head? ≠ some '+'

theorem takeSign_text (sign : Sign) {rest : Text} (unsigned : BeginsUnsigned rest) :
    takeSign (sign.text ++ rest) = (sign.isMinus, rest) := by
  cases sign with
  | plus => rfl
  | minus => rfl
  | absent =>
      rw [Sign.text, List.nil_append, takeSign]
      · rfl
      · rintro behind rfl
        exact unsigned.1 rfl
      · rintro behind rfl
        exact unsigned.2 rfl

theorem exists_sign (text : Text) :
    ∃ (sign : Sign) (rest : Text), text = sign.text ++ rest ∧
      takeSign text = (sign.isMinus, rest) := by
  rw [takeSign.eq_def]
  split
  · exact ⟨.minus, _, rfl, rfl⟩
  · exact ⟨.plus, _, rfl, rfl⟩
  · exact ⟨.absent, _, rfl, rfl⟩

theorem beginsUnsigned_of_digit {c : Char} (isDigit : c.isDigit = true) (rest : Text) :
    BeginsUnsigned (c :: rest) := by
  constructor <;>
  · intro same
    rw [List.head?_cons, Option.some_inj] at same
    rw [same] at isDigit
    exact absurd isDigit (by decide)

theorem beginsUnsigned_digits {digits : Text} (areDigits : ∀ c ∈ digits, c.isDigit = true)
    (nonempty : digits ≠ []) (rest : Text) : BeginsUnsigned (digits ++ rest) := by
  cases digits with
  | nil => exact absurd rfl nonempty
  | cons first digits => exact beginsUnsigned_of_digit (areDigits first List.mem_cons_self) _

theorem readExponent?_text (exponent : Exponent) :
    readExponent? exponent.text = some exponent.counted := by
  have unsigned : BeginsUnsigned exponent.digits := by
    rw [← List.append_nil exponent.digits]
    exact beginsUnsigned_digits exponent.areDigits exponent.nonempty []
  have nonempty : exponent.digits.isEmpty = false := by simpa using exponent.nonempty
  have areDigits : exponent.digits.all Char.isDigit = true := by simpa using exponent.areDigits
  simp only [Exponent.text, readExponent?, if_pos exponent.isMark, takeSign_text _ unsigned,
    nonempty, areDigits, Bool.not_true, Bool.or_false, Bool.false_eq_true, if_false,
    Exponent.counted, Sign.apply]
  cases exponent.sign.isMinus <;> simp

theorem exists_exponent {text : Text} {power : ℤ} (read : readExponent? text = some power) :
    ∃ exponent : Option Exponent, exponent.elim [] Exponent.text = text ∧
      exponent.elim 0 Exponent.counted = power := by
  cases text with
  | nil =>
      cases read
      exact ⟨none, rfl, rfl⟩
  | cons mark rest =>
      rw [readExponent?] at read
      split at read
      next isMark =>
        obtain ⟨sign, digits, rfl, taken⟩ := exists_sign rest
        rw [taken] at read
        dsimp only at read
        split at read
        · contradiction
        next valid =>
          rw [Bool.or_eq_true, not_or, Bool.not_eq_true', List.isEmpty_iff] at valid
          have areDigits : ∀ c ∈ digits, c.isDigit = true := by simpa using valid.2
          refine ⟨some ⟨mark, sign, digits, isMark, areDigits, valid.1⟩, rfl, ?_⟩
          rw [← Option.some_inj, ← read, Option.elim_some, Exponent.counted, Sign.apply]
          cases sign.isMinus <;> simp
      next => contradiction

theorem span_digits {digits rest : Text} (areDigits : ∀ c ∈ digits, c.isDigit = true)
    (stops : ∀ c, rest.head? = some c → c.isDigit = false) :
    Text.span Char.isDigit (digits ++ rest) = (digits, rest) := by
  have takes : rest.takeWhile Char.isDigit = [] := by
    cases rest with
    | nil => rfl
    | cons c rest => simp [stops c rfl]
  have drops : rest.dropWhile Char.isDigit = rest := by
    cases rest with
    | nil => rfl
    | cons c rest => simp [stops c rfl]
  rw [Text.span, List.takeWhile_append_of_pos areDigits, List.dropWhile_append_of_pos areDigits,
    takes, drops, List.append_nil]

theorem head?_exponent_text (exponent : Option Exponent) {c : Char}
    (begins : (exponent.elim [] Exponent.text).head? = some c) : c = 'e' ∨ c = 'E' := by
  cases exponent with
  | none => contradiction
  | some exponent =>
      cases begins
      exact exponent.isMark

theorem readFraction_text {fraction : Option Text} (exponent : Option Exponent)
    (areDigits : ∀ c ∈ fraction.getD [], c.isDigit = true) :
    readFraction (fraction.elim [] ('.' :: ·) ++ exponent.elim [] Exponent.text) =
      (fraction.getD [], exponent.elim [] Exponent.text) := by
  cases fraction with
  | none =>
      rw [Option.elim_none, List.nil_append, readFraction.eq_def]
      split
      next same =>
        have mark : '.' = 'e' ∨ '.' = 'E' :=
          head?_exponent_text exponent (by rw [same, List.head?_cons])
        exact absurd mark (by decide)
      next => rfl
  | some digits =>
      have stops : ∀ c, (exponent.elim [] Exponent.text).head? = some c → c.isDigit = false := by
        intro c begins
        rcases head?_exponent_text exponent begins with rfl | rfl <;> decide
      exact span_digits areDigits stops

theorem readDecimal?_unsigned (decimal : Decimal) :
    readDecimal? decimal.unsigned = some (decimal.significand, decimal.countedPower) := by
  have areDigits := decimal.areDigits
  simp only [List.mem_append] at areDigits
  have stops : ∀ c, (decimal.fraction.elim [] ('.' :: ·) ++
      decimal.exponent.elim [] Exponent.text).head? = some c → c.isDigit = false := by
    intro c begins
    cases isFraction : decimal.fraction with
    | none =>
        rw [isFraction, Option.elim_none, List.nil_append] at begins
        rcases head?_exponent_text decimal.exponent begins with rfl | rfl <;> decide
    | some digits =>
        rw [isFraction] at begins
        cases begins
        decide
  have whole := span_digits (fun c member => areDigits c (.inl member)) stops
  have fraction := readFraction_text decimal.exponent
    fun c member => areDigits c (.inr member)
  have exponent : readExponent? (decimal.exponent.elim [] Exponent.text) =
      some (decimal.exponent.elim 0 Exponent.counted) := by
    cases decimal.exponent with
    | none => rfl
    | some exponent => exact readExponent?_text exponent
  have nonempty : (decimal.whole.isEmpty && (decimal.fraction.getD []).isEmpty) = false := by
    simpa using decimal.nonempty
  rw [readDecimal?, Decimal.unsigned, List.append_assoc, whole]
  dsimp only
  rw [fraction]
  dsimp only
  rw [nonempty, exponent]
  rfl

/-- The digits that stand in front of a text, and the text behind them. -/
theorem span_isDigit (text : Text) :
    (∀ c ∈ (Text.span Char.isDigit text).1, c.isDigit = true) ∧
      (Text.span Char.isDigit text).1 ++ (Text.span Char.isDigit text).2 = text :=
  ⟨fun _ member => List.mem_takeWhile_imp member, List.takeWhile_append_dropWhile⟩

theorem exists_fraction (text : Text) :
    ∃ (fraction : Option Text) (behind : Text),
      readFraction text = (fraction.getD [], behind) ∧
      (∀ c ∈ fraction.getD [], c.isDigit = true) ∧
      fraction.elim [] ('.' :: ·) ++ behind = text := by
  rw [readFraction.eq_def]
  split
  next rest =>
    have span := span_isDigit rest
    refine ⟨some (Text.span Char.isDigit rest).1, (Text.span Char.isDigit rest).2, rfl, span.1, ?_⟩
    exact congrArg ('.' :: ·) span.2
  next => exact ⟨none, text, rfl, by simp, rfl⟩

/-- Whatever is read as a decimal number is written as one. -/
theorem exists_decimal {text : Text} {significand : ℕ} {power : ℤ} (sign : Sign)
    (read : readDecimal? text = some (significand, power)) :
    ∃ decimal : Decimal, decimal.sign = sign ∧ decimal.unsigned = text ∧
      decimal.significand = significand ∧ decimal.countedPower = power := by
  have span := span_isDigit text
  rw [readDecimal?] at read
  generalize Text.span Char.isDigit text = spanned at span read
  obtain ⟨whole, afterWhole⟩ := spanned
  obtain ⟨fraction, afterFraction, readFraction, areDigits, split⟩ := exists_fraction afterWhole
  dsimp only at span read
  rw [readFraction] at read
  dsimp only at read
  split at read
  · contradiction
  next someDigit =>
    have someDigit : whole ++ fraction.getD [] ≠ [] := by simpa using someDigit
    obtain ⟨counted, readExponent, same⟩ := Option.map_eq_some_iff.mp read
    obtain ⟨exponent, rfl, rfl⟩ := exists_exponent readExponent
    cases same
    refine ⟨⟨sign, whole, fraction, exponent, ?_, someDigit⟩, rfl, ?_, rfl, rfl⟩
    · intro c member
      rcases List.mem_append.mp member with inWhole | inFraction
      · exact span.1 c inWhole
      · exact areDigits c inFraction
    · rw [Decimal.unsigned, List.append_assoc, split]
      exact span.2

/-- A decimal number begins with a digit or a point. -/
theorem Decimal.begins (decimal : Decimal) {c : Char}
    (begins : decimal.unsigned.head? = some c) : c.isDigit = true ∨ c = '.' := by
  have areDigits := decimal.areDigits
  have nonempty := decimal.nonempty
  rw [unsigned] at begins
  cases isWhole : decimal.whole with
  | cons first whole =>
      rw [isWhole] at begins areDigits
      cases begins
      exact .inl (areDigits c (by simp))
  | nil =>
      cases isFraction : decimal.fraction with
      | none => simp [isWhole, isFraction] at nonempty
      | some fraction =>
          rw [isWhole, isFraction] at begins
          cases begins
          exact .inr rfl

theorem Decimal.beginsUnsigned (decimal : Decimal) : BeginsUnsigned decimal.unsigned := by
  constructor <;>
  · intro begins
    exact absurd (decimal.begins begins) (by decide)

theorem lowerChar_of_begins {c : Char} (begins : c.isDigit = true ∨ c = '.') :
    Text.lowerChar c = c := by
  rcases begins with isDigit | rfl
  · simp only [Char.isDigit, Bool.and_eq_true, decide_eq_true_eq] at isDigit
    rw [Text.lowerChar, if_neg]
    rintro ⟨capital, -⟩
    exact absurd (le_trans capital isDigit.2) (by decide)
  · rfl

/-- None of the words begins like a number. -/
theorem Decimal.lower_ne_word (decimal : Decimal) :
    ∀ word ∈ notANumberWord :: infinityWords, Text.lower decimal.unsigned ≠ word := by
  have noNumber : ∀ word ∈ notANumberWord :: infinityWords,
      (word.head?.any fun c => !(c.isDigit || c = '.')) = true := by decide
  intro word member same
  have noBegin := noNumber word member
  rw [← same, Text.lower, List.head?_map, Option.any_map] at noBegin
  rw [Option.any_eq_true] at noBegin
  obtain ⟨c, begins, noBegin⟩ := noBegin
  have isBegin := decimal.begins begins
  simp only [lowerChar_of_begins isBegin, Bool.not_eq_true', Bool.or_eq_false_iff,
    decide_eq_false_iff_not] at noBegin
  rcases isBegin with isDigit | isPoint
  · exact absurd (noBegin.1.symm.trans isDigit) Bool.false_ne_true
  · exact noBegin.2 isPoint

/-- A word has no sign of its own. -/
theorem beginsUnsigned_of_lower {word : Text}
    (isWord : Text.lower word ∈ notANumberWord :: infinityWords) : BeginsUnsigned word := by
  have noSign : ∀ known ∈ notANumberWord :: infinityWords,
      known.head? ≠ some '-' ∧ known.head? ≠ some '+' := by decide
  have known := noSign _ isWord
  rw [Text.lower, List.head?_map] at known
  constructor
  · intro begins
    exact known.1 (by rw [begins]; rfl)
  · intro begins
    exact known.2 (by rw [begins]; rfl)

/-- A text is read as the numeral that it is written as. -/
theorem read?_eq_some_iff {raw : Text} {numeral : Numeral} :
    read? raw = some numeral ↔ IsWritten numeral raw := by
  constructor
  · intro read
    obtain ⟨sign, rest, rfl, taken⟩ := exists_sign raw
    rw [read?, taken] at read
    dsimp only at read
    split at read
    next isInfinity =>
      cases read
      exact .infinite sign isInfinity
    next =>
      split at read
      next isNothing =>
        cases read
        exact .notANumber sign isNothing
      next =>
        obtain ⟨⟨significand, power⟩, readDecimal, same⟩ := Option.map_eq_some_iff.mp read
        obtain ⟨decimal, rfl, rfl, rfl, rfl⟩ := exists_decimal sign readDecimal
        cases same
        exact .finite decimal
  · intro written
    cases written with
    | infinite sign isWord =>
        rw [read?, takeSign_text _ (beginsUnsigned_of_lower (List.mem_cons_of_mem _ isWord))]
        dsimp only
        rw [if_pos isWord]
    | notANumber sign isWord =>
        have isKnown : Text.lower _ ∈ notANumberWord :: infinityWords :=
          List.mem_cons.mpr (Or.inl isWord)
        have notInfinity : notANumberWord ∉ infinityWords := by decide
        rw [read?, takeSign_text _ (beginsUnsigned_of_lower isKnown)]
        dsimp only
        rw [isWord, if_neg notInfinity, if_pos rfl]
    | finite decimal =>
        have noWord := decimal.lower_ne_word
        have notInfinity : Text.lower decimal.unsigned ∉ infinityWords :=
          fun member => noWord _ (List.mem_cons_of_mem _ member) rfl
        have notNothing : Text.lower decimal.unsigned ≠ notANumberWord :=
          noWord _ List.mem_cons_self
        rw [Decimal.text, read?, takeSign_text _ decimal.beginsUnsigned]
        dsimp only
        rw [if_neg notInfinity, if_neg notNothing, readDecimal?_unsigned]
        rfl

/-- Below this, an exponent is counted in full. -/
def exponentReach : ℕ := 655360

/-- Digits that would bring a value past the reach of exponents are passed over, and no others. -/
theorem exponentValue_eq {digits : Text} (small : Text.decimalValue digits < exponentReach) :
    exponentValue digits = Text.decimalValue digits := by
  induction digits using List.reverseRecOn with
  | nil => rfl
  | append_singleton digits digit inductionHypothesis =>
      rw [Text.decimalValue, exponentReach, List.foldl_append, List.foldl_cons, List.foldl_nil,
        ← Text.decimalValue] at small
      have before : Text.decimalValue digits < exponentCap := by
        rw [exponentCap]
        omega
      have counted := inductionHypothesis (by rw [exponentReach]; rw [exponentCap] at before; omega)
      rw [exponentValue, Text.decimalValue, List.foldl_append, List.foldl_append, ← exponentValue,
        ← Text.decimalValue, counted]
      simp [before]

namespace Decimal

/-- Whether the exponent of a decimal number is counted in full. -/
def IsCounted (decimal : Decimal) : Prop :=
  ∀ exponent ∈ decimal.exponent, Text.decimalValue exponent.digits < exponentReach

theorem IsCounted.countedNumber_eq {decimal : Decimal} (isCounted : decimal.IsCounted) :
    decimal.countedNumber = decimal.number := by
  rw [countedNumber, number, countedPower]
  cases isExponent : decimal.exponent with
  | none => rfl
  | some exponent =>
      simp only [Option.elim_some, Exponent.counted, Exponent.power,
        exponentValue_eq (isCounted exponent isExponent)]

end Decimal

end Numeral

end UploadProbe
