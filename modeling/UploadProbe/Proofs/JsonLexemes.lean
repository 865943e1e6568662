import Mathlib
import UploadProbe.Proofs.JsonGrammar

/-!
# Reading the strings and numbers of JSON

What a reader of blanks, strings or numbers has read is derived by the grammar, and what the grammar
derives is read up to its end: a string whatever stands behind it, digits and numbers if something
stands behind them that cannot continue them. What a string decodes to is what it tells.
-/

namespace UploadProbe.Json

theorem isBlank_iff {c : Char} :
    isBlank c = true ↔ c = ' ' ∨ c = '\t' ∨ c = '\n' ∨ c = '\r' := by
  simp [isBlank, or_assoc]

theorem AreBlanks.append {left right : Text} (leftBlanks : AreBlanks left)
    (rightBlanks : AreBlanks right) : AreBlanks (left ++ right) := by
  intro c member
  rcases List.mem_append.mp member with before | behind
  · exact leftBlanks c before
  · exact rightBlanks c behind

theorem skipBlanks_append {blanks : Text} (areBlanks : AreBlanks blanks) (rest : Text) :
    skipBlanks (blanks ++ rest) = skipBlanks rest :=
  List.dropWhile_append_of_pos fun c member => isBlank_iff.mpr (areBlanks c member)

theorem skipBlanks_cons {c : Char} (solid : isBlank c = false) (rest : Text) :
    skipBlanks (c :: rest) = c :: rest := by
  simp [skipBlanks, solid]

theorem exists_skipBlanks (text : Text) :
    ∃ blanks, AreBlanks blanks ∧ text = blanks ++ skipBlanks text := by
  refine ⟨text.takeWhile isBlank, ?_, (List.takeWhile_append_dropWhile).symm⟩
  intro c member
  exact isBlank_iff.mp (List.mem_takeWhile_imp member)

theorem skipBlanks_skipBlanks (text : Text) : skipBlanks (skipBlanks text) = skipBlanks text := by
  rcases exists_skipBlanks text with ⟨blanks, areBlanks, same⟩
  rw [← skipBlanks_append areBlanks (skipBlanks text), ← same]

theorem escapedChar?_eq_some_iff {letter c : Char} :
    escapedChar? letter = some c ↔ (letter, c) ∈ escapes := by
  constructor
  · fun_cases escapedChar? letter <;> intro escape <;> cases escape <;> decide
  · intro member
    simp only [escapes, List.mem_cons, Prod.mk.injEq, List.not_mem_nil, or_false] at member
    rcases member with ⟨rfl, rfl⟩ | ⟨rfl, rfl⟩ | ⟨rfl, rfl⟩ | ⟨rfl, rfl⟩ | ⟨rfl, rfl⟩ | ⟨rfl, rfl⟩ |
      ⟨rfl, rfl⟩ | ⟨rfl, rfl⟩ <;> rfl

theorem codeUnit?_eq_some_iff {first second third fourth : Char} {code : Nat} :
    codeUnit? first second third fourth = some code ↔
      IsCodeUnit first second third fourth code := by
  simp only [codeUnit?, IsCodeUnit, bind, Option.bind_eq_some_iff, pure, Option.some.injEq]
  constructor
  · rintro ⟨a, isFirst, b, isSecond, c, isThird, d, isFourth, rfl⟩
    exact ⟨a, b, c, d, isFirst, isSecond, isThird, isFourth, by ring⟩
  · rintro ⟨a, b, c, d, isFirst, isSecond, isThird, isFourth, rfl⟩
    exact ⟨a, isFirst, b, isSecond, c, isThird, d, isFourth, by ring⟩

/-- What has been read of a string is what is spelled up to the next quote. -/
theorem isSpelled_of_readString? {text : Text} {raw : RawString} {rest : Text}
    (read : readString? text = some (raw, rest)) :
    ∃ spelling, raw.IsSpelled spelling ∧ text = spelling ++ '"' :: rest := by
  fun_induction readString? text generalizing raw rest with
  | case1 => contradiction
  | case2 =>
      cases read
      exact ⟨[], .nil, rfl⟩
  | case3 => contradiction
  | case4 a b c d behind code isCode inductionHypothesis =>
      rcases Option.map_eq_some_iff.mp read with ⟨⟨others, left⟩, readOthers, same⟩
      cases same
      rcases inductionHypothesis readOthers with ⟨spelling, spelled, rfl⟩
      exact ⟨_, .unit (codeUnit?_eq_some_iff.mp isCode) spelled, rfl⟩
  | case5 => contradiction
  | case6 letter behind notUnit c isEscape inductionHypothesis =>
      rcases Option.map_eq_some_iff.mp read with ⟨⟨others, left⟩, readOthers, same⟩
      cases same
      rcases inductionHypothesis readOthers with ⟨spelling, spelled, rfl⟩
      exact ⟨_, .escaped (escapedChar?_eq_some_iff.mp isEscape) spelled, rfl⟩
  | case7 => contradiction
  | case8 => contradiction
  | case9 c behind notQuote noLone noUnit noEscape notControl inductionHypothesis =>
      rcases Option.map_eq_some_iff.mp read with ⟨⟨others, left⟩, readOthers, same⟩
      cases same
      rcases inductionHypothesis readOthers with ⟨spelling, spelled, rfl⟩
      have notBackslash : c ≠ '\\' := by
        intro backslash
        cases spelling with
        | nil => exact noEscape _ _ backslash rfl
        | cons letter spelling => exact noEscape _ _ backslash rfl
      exact ⟨_, .plain notQuote notBackslash (not_lt.mp notControl) spelled, rfl⟩

/-- What is spelled up to a quote is read, whatever stands behind the quote. -/
theorem readString?_of_isSpelled {raw : RawString} {spelling : Text}
    (spelled : raw.IsSpelled spelling) (rest : Text) :
    readString? (spelling ++ '"' :: rest) = some (raw, rest) := by
  induction spelled with
  | nil => rfl
  | plain notQuote notBackslash notControl spelled inductionHypothesis =>
      rw [List.cons_append, readString?, if_neg (not_lt.mpr notControl), inductionHypothesis]
      · rfl
      · exact notQuote
      · exact fun backslash _ => notBackslash backslash
      · exact fun _ _ _ _ _ backslash _ => notBackslash backslash
      · exact fun _ _ backslash _ => notBackslash backslash
  | @escaped letter c raw text escape spelled inductionHypothesis =>
      have isEscape := escapedChar?_eq_some_iff.mpr escape
      have notUnit : letter ≠ 'u' := by
        rintro rfl
        contradiction
      simp only [List.cons_append]
      rw [readString?, isEscape]
      · dsimp only
        rw [inductionHypothesis]
        rfl
      · exact fun _ _ _ _ _ unit _ => notUnit unit
  | unit codeUnit spelled inductionHypothesis =>
      simp only [List.cons_append]
      rw [readString?, codeUnit?_eq_some_iff.mpr codeUnit]
      dsimp only
      rw [inductionHypothesis]
      rfl

namespace RawString

/-- A code unit that is no half of a surrogate pair is a scalar value of its own. -/
theorem decode?_scalar {code : Nat} (single : code < 0xD800 ∨ 0xE000 ≤ code) (raw : RawString) :
    decode? (.unit code :: raw) = (decode? raw).map (Char.ofNat code :: ·) := by
  have notLeading : isLeadingHalf code = false := by
    simp [isLeadingHalf]
    omega
  have notTrailing : isTrailingHalf code = false := by
    simp [isTrailingHalf]
    omega
  rcases raw with _ | ⟨_ | _ | trailing, raw⟩ <;> simp [decode?, notLeading, notTrailing]

/-- What a string decodes to is what it tells. -/
theorem decode?_eq_some_iff {raw : RawString} {text : Text} :
    raw.decode? = some text ↔ raw.Tells text := by
  have single : ∀ {code : Nat}, ¬isLeadingHalf code = true → ¬isTrailingHalf code = true →
      code < 0xD800 ∨ 0xE000 ≤ code := by
    intro code notLeading notTrailing
    simp only [isLeadingHalf, isTrailingHalf, Bool.and_eq_true, decide_eq_true_eq] at *
    omega
  constructor
  · intro decoded
    fun_induction RawString.decode? raw generalizing text with
    | case1 =>
        cases decoded
        exact .nil
    | case2 c raw inductionHypothesis =>
        rcases Option.map_eq_some_iff.mp decoded with ⟨others, decodedOthers, rfl⟩
        exact .plain (inductionHypothesis decodedOthers)
    | case3 c raw inductionHypothesis =>
        rcases Option.map_eq_some_iff.mp decoded with ⟨others, decodedOthers, rfl⟩
        exact .escaped (inductionHypothesis decodedOthers)
    | case4 leading trailing raw isLeading isTrailing inductionHypothesis =>
        rcases Option.map_eq_some_iff.mp decoded with ⟨others, decodedOthers, rfl⟩
        simp only [isLeadingHalf, Bool.and_eq_true, decide_eq_true_eq] at isLeading
        simp only [isTrailingHalf, Bool.and_eq_true, decide_eq_true_eq] at isTrailing
        exact .pair isLeading isTrailing (inductionHypothesis decodedOthers)
    | case5 => contradiction
    | case6 => contradiction
    | case7 leading trailing raw notLeading notTrailing inductionHypothesis =>
        rcases Option.map_eq_some_iff.mp decoded with ⟨others, decodedOthers, rfl⟩
        exact .scalar (single notLeading notTrailing) (inductionHypothesis decodedOthers)
    | case8 => contradiction
    | case9 code raw notPaired notHalf inductionHypothesis =>
        rcases Option.map_eq_some_iff.mp decoded with ⟨others, decodedOthers, rfl⟩
        rw [Bool.or_eq_true, not_or] at notHalf
        exact .scalar (single notHalf.1 notHalf.2) (inductionHypothesis decodedOthers)
  · intro tells
    induction tells with
    | nil => rfl
    | plain tells inductionHypothesis => rw [decode?, inductionHypothesis, Option.map_some]
    | escaped tells inductionHypothesis => rw [decode?, inductionHypothesis, Option.map_some]
    | scalar single tells inductionHypothesis =>
        rw [decode?_scalar single, inductionHypothesis, Option.map_some]
    | pair isLeading isTrailing tells inductionHypothesis =>
        rw [decode?, if_pos (by simpa [isLeadingHalf] using isLeading),
          if_pos (by simpa [isTrailingHalf] using isTrailing), inductionHypothesis, Option.map_some]
        rfl

instance (raw : RawString) (text : Text) : Decidable (raw.Tells text) :=
  decidable_of_iff _ decode?_eq_some_iff

end RawString

/-- Whether a text cannot continue digits. -/
def StopsDigits (text : Text) : Prop :=
  ∀ c, text.head? = some c → c.isDigit = false

theorem stopsDigits_cons {c : Char} (noDigit : c.isDigit = false) (rest : Text) :
    StopsDigits (c :: rest) := by
  simp [StopsDigits, noDigit]

theorem isDigits_of_readDigits? {text digits rest : Text}
    (read : readDigits? text = some (digits, rest)) :
    IsDigits digits ∧ text = digits ++ rest := by
  simp only [readDigits?] at read
  split at read
  · contradiction
  · rename_i nonempty
    cases read
    refine ⟨⟨?_, ?_⟩, (List.takeWhile_append_dropWhile).symm⟩
    · intro empty
      exact nonempty (List.isEmpty_iff.mpr empty)
    · intro c member
      exact List.mem_takeWhile_imp member

theorem readDigits?_of_isDigits {digits rest : Text} (isDigits : IsDigits digits)
    (stops : StopsDigits rest) : readDigits? (digits ++ rest) = some (digits, rest) := by
  have takes : rest.takeWhile Char.isDigit = [] := by
    cases rest with
    | nil => rfl
    | cons c rest => simp [stops c rfl]
  have drops : rest.dropWhile Char.isDigit = rest := by
    cases rest with
    | nil => rfl
    | cons c rest => simp [stops c rfl]
  have nonempty : digits.isEmpty = false := by simpa using isDigits.1
  simp only [readDigits?, Text.span, List.takeWhile_append_of_pos isDigits.2,
    List.dropWhile_append_of_pos isDigits.2, takes, drops, List.append_nil, nonempty,
    Bool.false_eq_true, if_false]

theorem isWhole_of_readWhole? {text whole rest : Text}
    (read : readWhole? text = some (whole, rest)) : IsWhole whole ∧ text = whole ++ rest := by
  unfold readWhole? at read
  split at read
  · split at read
    · split at read
      · contradiction
      · cases read
        exact ⟨Or.inl rfl, rfl⟩
    · cases read
      exact ⟨Or.inl rfl, rfl⟩
  · rename_i noZero
    rcases isDigits_of_readDigits? read with ⟨isDigits, rfl⟩
    refine ⟨Or.inr ⟨isDigits, ?_⟩, rfl⟩
    intro zero
    rcases List.head?_eq_some_iff.mp zero with ⟨others, rfl⟩
    exact noZero _ rfl

theorem readWhole?_of_isWhole {whole rest : Text} (isWhole : IsWhole whole)
    (stops : StopsDigits rest) : readWhole? (whole ++ rest) = some (whole, rest) := by
  rcases isWhole with rfl | ⟨isDigits, noZero⟩
  · cases rest with
    | nil => rfl
    | cons c rest => simp [readWhole?, stops c rfl]
  · rw [readWhole?, readDigits?_of_isDigits isDigits stops]
    intro others same
    cases whole with
    | nil => exact isDigits.1 rfl
    | cons c whole => exact noZero (congrArg some (List.cons.inj same).1)

theorem isFraction_of_readFraction? {text fraction rest : Text}
    (read : readFraction? text = some (fraction, rest)) :
    IsFraction fraction ∧ text = fraction ++ rest := by
  unfold readFraction? at read
  split at read
  · rcases Option.map_eq_some_iff.mp read with ⟨⟨digits, behind⟩, readDigits, same⟩
    cases same
    rcases isDigits_of_readDigits? readDigits with ⟨isDigits, rfl⟩
    exact ⟨Or.inr ⟨digits, isDigits, rfl⟩, rfl⟩
  · cases read
    exact ⟨Or.inl rfl, rfl⟩

theorem readFraction?_of_isFraction {fraction rest : Text} (isFraction : IsFraction fraction)
    (stops : StopsDigits rest) (noPoint : rest.head? ≠ some '.') :
    readFraction? (fraction ++ rest) = some (fraction, rest) := by
  rcases isFraction with rfl | ⟨digits, isDigits, rfl⟩
  · rw [List.nil_append, readFraction?]
    intro behind same
    exact noPoint (by rw [same]; rfl)
  · rw [List.cons_append, readFraction?, readDigits?_of_isDigits isDigits stops]
    rfl

theorem isPower_of_readPower? {text power rest : Text}
    (read : readPower? text = some (power, rest)) : IsPower power ∧ text = power ++ rest := by
  unfold readPower? at read
  split at read
  · split at read
    · rename_i isLetter
      split at read
      · split at read
        · rename_i isSign
          rcases Option.map_eq_some_iff.mp read with ⟨⟨digits, behind⟩, readDigits, same⟩
          cases same
          rcases isDigits_of_readDigits? readDigits with ⟨isDigits, rfl⟩
          refine ⟨Or.inr ⟨_, [_], digits, isLetter, Or.inr ?_, isDigits, rfl⟩, rfl⟩
          simpa using isSign
        · rcases Option.map_eq_some_iff.mp read with ⟨⟨digits, behind⟩, readDigits, same⟩
          cases same
          rcases isDigits_of_readDigits? readDigits with ⟨isDigits, whole⟩
          refine ⟨Or.inr ⟨_, [], digits, isLetter, Or.inl rfl, isDigits, rfl⟩, ?_⟩
          rw [whole]
          rfl
      · contradiction
    · cases read
      exact ⟨Or.inl rfl, rfl⟩
  · cases read
    exact ⟨Or.inl rfl, rfl⟩

theorem readPower?_of_isPower {power rest : Text} (isPower : IsPower power)
    (stops : StopsDigits rest) (noLetter : rest.head? ≠ some 'e' ∧ rest.head? ≠ some 'E') :
    readPower? (power ++ rest) = some (power, rest) := by
  rcases isPower with rfl | ⟨letter, sign, digits, isLetter, isSign, isDigits, rfl⟩
  · cases rest with
    | nil => rfl
    | cons c rest =>
        have notLetter : ¬(c = 'e' ∨ c = 'E') := by simpa using noLetter
        simp only [List.nil_append, readPower?, if_neg notLetter]
  · have readsDigits := readDigits?_of_isDigits isDigits stops
    simp only [List.cons_append, List.append_assoc, readPower?, if_pos isLetter]
    rcases isSign with rfl | rfl | rfl
    · cases digits with
      | nil => exact absurd rfl isDigits.1
      | cons first digits =>
          have noSign : ¬(first = '+' ∨ first = '-') := by
            have digit := isDigits.2 first List.mem_cons_self
            rintro (rfl | rfl) <;> contradiction
          simp only [List.nil_append, List.cons_append, if_neg noSign] at readsDigits ⊢
          rw [readsDigits]
          rfl
    · simp [readsDigits]
    · simp [readsDigits]

/-- Whether a text cannot continue a number. -/
def StopsNumber (text : Text) : Prop :=
  ∀ c, text.head? = some c → c.isDigit = false ∧ c ≠ '.' ∧ c ≠ 'e' ∧ c ≠ 'E'

theorem isUnsigned_of_readUnsigned? {text unsigned rest : Text}
    (read : readUnsigned? text = some (unsigned, rest)) :
    IsUnsigned unsigned ∧ text = unsigned ++ rest := by
  simp only [readUnsigned?, bind, Option.bind_eq_some_iff, pure, Option.some.injEq] at read
  rcases read with ⟨⟨whole, afterWhole⟩, readWhole, ⟨fraction, afterFraction⟩, readFraction,
    ⟨power, behind⟩, readPower, same⟩
  cases same
  rcases isWhole_of_readWhole? readWhole with ⟨isWhole, rfl⟩
  rcases isFraction_of_readFraction? readFraction with ⟨isFraction, sameFraction⟩
  rcases isPower_of_readPower? readPower with ⟨isPower, samePower⟩
  dsimp only at sameFraction samePower
  refine ⟨⟨whole, fraction, power, isWhole, isFraction, isPower, rfl⟩, ?_⟩
  rw [sameFraction, samePower, List.append_assoc, List.append_assoc]

theorem readUnsigned?_of_isUnsigned {unsigned rest : Text} (isUnsigned : IsUnsigned unsigned)
    (stops : StopsNumber rest) : readUnsigned? (unsigned ++ rest) = some (unsigned, rest) := by
  rcases isUnsigned with ⟨whole, fraction, power, isWhole, isFraction, isPower, rfl⟩
  have noDigit : StopsDigits rest := fun c first => (stops c first).1
  have noPoint : rest.head? ≠ some '.' := fun first => (stops '.' first).2.1 rfl
  have noLetter : rest.head? ≠ some 'e' ∧ rest.head? ≠ some 'E' :=
    ⟨fun first => (stops 'e' first).2.2.1 rfl, fun first => (stops 'E' first).2.2.2 rfl⟩
  have behindFraction : StopsDigits (power ++ rest) ∧ (power ++ rest).head? ≠ some '.' := by
    rcases isPower with rfl | ⟨letter, sign, digits, rfl | rfl, -, -, rfl⟩
    · exact ⟨noDigit, noPoint⟩
    · exact ⟨stopsDigits_cons (by decide) _, by simp⟩
    · exact ⟨stopsDigits_cons (by decide) _, by simp⟩
  have behindWhole : StopsDigits (fraction ++ (power ++ rest)) := by
    rcases isFraction with rfl | ⟨digits, -, rfl⟩
    · exact behindFraction.1
    · exact stopsDigits_cons (by decide) _
  simp only [readUnsigned?, List.append_assoc, readWhole?_of_isWhole isWhole behindWhole,
    readFraction?_of_isFraction isFraction behindFraction.1 behindFraction.2,
    readPower?_of_isPower isPower noDigit noLetter, bind, Option.bind_some, pure]

theorem isNumber_of_readNumber? {text lexeme rest : Text}
    (read : readNumber? text = some (lexeme, rest)) : IsNumber lexeme ∧ text = lexeme ++ rest := by
  unfold readNumber? at read
  split at read
  · rcases Option.map_eq_some_iff.mp read with ⟨⟨unsigned, behind⟩, readUnsigned, same⟩
    cases same
    rcases isUnsigned_of_readUnsigned? readUnsigned with ⟨isUnsigned, rfl⟩
    exact ⟨Or.inr ⟨unsigned, isUnsigned, rfl⟩, rfl⟩
  · rcases isUnsigned_of_readUnsigned? read with ⟨isUnsigned, same⟩
    exact ⟨Or.inl isUnsigned, same⟩

/-- A number without a sign begins with a digit. -/
theorem exists_digit_of_isUnsigned {unsigned : Text} (isUnsigned : IsUnsigned unsigned) :
    ∃ first others, unsigned = first :: others ∧ first.isDigit = true := by
  rcases isUnsigned with ⟨whole, fraction, power, rfl | ⟨⟨nonempty, digits⟩, -⟩, -, -, rfl⟩
  · exact ⟨'0', _, rfl, by decide⟩
  · cases whole with
    | nil => exact absurd rfl nonempty
    | cons first others => exact ⟨first, _, rfl, digits first List.mem_cons_self⟩

theorem readNumber?_of_isNumber {lexeme rest : Text} (isNumber : IsNumber lexeme)
    (stops : StopsNumber rest) : readNumber? (lexeme ++ rest) = some (lexeme, rest) := by
  rcases isNumber with isUnsigned | ⟨unsigned, isUnsigned, rfl⟩
  · rw [readNumber?, readUnsigned?_of_isUnsigned isUnsigned stops]
    intro others same
    rcases exists_digit_of_isUnsigned isUnsigned with ⟨first, behind, rfl, digit⟩
    rw [(List.cons.inj same).1] at digit
    contradiction
  · rw [List.cons_append, readNumber?, readUnsigned?_of_isUnsigned isUnsigned stops]
    rfl

end UploadProbe.Json
