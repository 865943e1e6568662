import Mathlib
import UploadProbe.Proofs.JsonLexemes

/-!
# Reading JSON exactly

The reader of JSON accepts a text exactly if the grammar derives it, and gives the value that is
written in it. What has been read of a value, of elements or of members is derived by the grammar,
by induction on the budget; and what the grammar derives is read up to its end, by induction on the
derivation. The budget is no restriction, since between two characters at most two readers are
called.
-/

namespace UploadProbe.Json

theorem isWritten_of_readWord? {text : Text} {json : Json} {rest : Text}
    (read : readWord? text = some (json, rest)) :
    ∃ word, IsWritten (.value json) word ∧ text = word ++ rest := by
  simp only [readWord?] at read
  split_ifs at read with isNull isTrue isFalse
  · rcases List.isPrefixOf_iff_prefix.mp isNull with ⟨behind, rfl⟩
    cases read
    exact ⟨_, .null, rfl⟩
  · rcases List.isPrefixOf_iff_prefix.mp isTrue with ⟨behind, rfl⟩
    cases read
    exact ⟨_, .true, rfl⟩
  · rcases List.isPrefixOf_iff_prefix.mp isFalse with ⟨behind, rfl⟩
    cases read
    exact ⟨_, .false, rfl⟩

theorem isMemberName_of_readName? {text : Text} {raw : RawString} {rest : Text}
    (read : readName? (skipBlanks text) = some (raw, rest)) :
    ∃ name, IsMemberName raw name ∧ text = name ++ rest := by
  rcases exists_skipBlanks text with ⟨before, blanksBefore, same⟩
  unfold readName? at read
  split at read
  · rename_i quoted opened
    split at read
    · rename_i raw' behindQuote readString
      split at read
      · rename_i behindColon colon
        cases read
        rcases isSpelled_of_readString? readString with ⟨spelling, spelled, rfl⟩
        rcases exists_skipBlanks behindQuote with ⟨behind, blanksBehind, sameBehind⟩
        refine ⟨_, ⟨before, spelling, behind, blanksBefore, blanksBehind, spelled, rfl⟩, ?_⟩
        rw [same, opened, sameBehind, colon]
        simp
      · contradiction
    · contradiction
  · contradiction

/-- Whether what has been read of a value with some budget is written. -/
def ValueIsWritten (budget : Nat) : Prop :=
  ∀ text json rest, readValue? budget text = some (json, rest) →
    ∃ before inner, AreBlanks before ∧ IsWritten (.value json) inner ∧
      text = before ++ (inner ++ rest)

/-- Whether what has been read of elements with some budget is written. -/
def ElementsAreWritten (budget : Nat) : Prop :=
  ∀ text elements rest, readElements? budget text = some (elements, rest) →
    ∃ inner, IsWritten (.elements elements) inner ∧ text = inner ++ ']' :: rest

/-- Whether what has been read of members with some budget is written. -/
def MembersAreWritten (budget : Nat) : Prop :=
  ∀ text members rest, readMembers? budget text = some (members, rest) →
    ∃ inner, IsWritten (.members members) inner ∧ text = inner ++ '\x7d' :: rest

/-- Blanks may stand in front of elements. -/
theorem IsWritten.blanks_elements {elements : List Json} {text blanks : Text}
    (areBlanks : AreBlanks blanks) (written : IsWritten (.elements elements) text) :
    IsWritten (.elements elements) (blanks ++ text) := by
  cases written with
  | element blanksBefore blanksBehind written =>
      rw [← List.append_assoc]
      exact .element (areBlanks.append blanksBefore) blanksBehind written
  | elements blanksBefore blanksBehind written further =>
      rw [← List.append_assoc]
      exact .elements (areBlanks.append blanksBefore) blanksBehind written further

theorem IsMemberName.blanks_append {raw : RawString} {name blanks : Text}
    (areBlanks : AreBlanks blanks) (isName : IsMemberName raw name) :
    IsMemberName raw (blanks ++ name) := by
  rcases isName with ⟨before, spelling, behind, blanksBefore, blanksBehind, spelled, rfl⟩
  exact ⟨blanks ++ before, spelling, behind, areBlanks.append blanksBefore, blanksBehind, spelled,
    (List.append_assoc ..).symm⟩

/-- Blanks may stand in front of members. -/
theorem IsWritten.blanks_members {members : List (RawString × Json)} {text blanks : Text}
    (areBlanks : AreBlanks blanks) (written : IsWritten (.members members) text) :
    IsWritten (.members members) (blanks ++ text) := by
  cases written with
  | member isName blanksBefore blanksBehind written =>
      rw [← List.append_assoc]
      exact .member (isName.blanks_append areBlanks) blanksBefore blanksBehind written
  | members isName blanksBefore blanksBehind written further =>
      rw [← List.append_assoc]
      exact .members (isName.blanks_append areBlanks) blanksBefore blanksBehind written further

theorem valueIsWritten_succ {budget : Nat} (elementsAreWritten : ElementsAreWritten budget)
    (membersAreWritten : MembersAreWritten budget) : ValueIsWritten (budget + 1) := by
  intro text json rest read
  rcases exists_skipBlanks text with ⟨before, blanksBefore, same⟩
  suffices ∃ inner, IsWritten (.value json) inner ∧ skipBlanks text = inner ++ rest by
    rcases this with ⟨inner, written, sameInner⟩
    exact ⟨before, inner, blanksBefore, written, by rw [← sameInner, ← same]⟩
  rw [readValue?] at read
  split at read
  · rename_i quoted opened
    rcases Option.map_eq_some_iff.mp read with ⟨⟨raw, behind⟩, readString, sameString⟩
    cases sameString
    rcases isSpelled_of_readString? readString with ⟨spelling, spelled, rfl⟩
    exact ⟨_, .string spelled, by rw [opened]; simp⟩
  · rename_i bracketed opened
    rcases exists_skipBlanks bracketed with ⟨blanks, areBlanks, sameBlanks⟩
    split at read
    · rename_i behind closed
      cases read
      exact ⟨_, .emptyArray areBlanks, by rw [opened, sameBlanks, closed]; simp⟩
    · rcases Option.map_eq_some_iff.mp read with ⟨⟨elements, behind⟩, readElements, sameElements⟩
      cases sameElements
      rcases elementsAreWritten _ _ _ readElements with ⟨inner, written, sameInner⟩
      exact ⟨_, .array (written.blanks_elements areBlanks),
        by rw [opened, sameBlanks, sameInner]; simp⟩
  · rename_i braced opened
    rcases exists_skipBlanks braced with ⟨blanks, areBlanks, sameBlanks⟩
    split at read
    · rename_i behind closed
      cases read
      exact ⟨_, .emptyObject areBlanks, by rw [opened, sameBlanks, closed]; simp⟩
    · rcases Option.map_eq_some_iff.mp read with ⟨⟨members, behind⟩, readMembers, sameMembers⟩
      cases sameMembers
      rcases membersAreWritten _ _ _ readMembers with ⟨inner, written, sameInner⟩
      exact ⟨_, .object (written.blanks_members areBlanks),
        by rw [opened, sameBlanks, sameInner]; simp⟩
  · split at read
    · rename_i found readWord
      cases read
      exact isWritten_of_readWord? readWord
    · rcases Option.map_eq_some_iff.mp read with ⟨⟨lexeme, behind⟩, readNumber, sameNumber⟩
      cases sameNumber
      rcases isNumber_of_readNumber? readNumber with ⟨isNumber, sameLexeme⟩
      exact ⟨lexeme, .number isNumber, sameLexeme⟩

theorem elementsAreWritten_succ {budget : Nat} (valueIsWritten : ValueIsWritten budget)
    (elementsAreWritten : ElementsAreWritten budget) : ElementsAreWritten (budget + 1) := by
  intro text elements rest read
  rw [readElements?] at read
  split at read
  · rename_i json behindValue readValue
    rcases valueIsWritten _ _ _ readValue with ⟨before, inner, blanksBefore, written, rfl⟩
    rcases exists_skipBlanks behindValue with ⟨behind, blanksBehind, sameBehind⟩
    split at read
    · rename_i behindBracket closed
      cases read
      exact ⟨_, .element blanksBefore blanksBehind written, by rw [sameBehind, closed]; simp⟩
    · rename_i behindComma separated
      rcases Option.map_eq_some_iff.mp read with ⟨⟨others, left⟩, readOthers, sameOthers⟩
      cases sameOthers
      rcases elementsAreWritten _ _ _ readOthers with ⟨more, further, rfl⟩
      exact ⟨_, .elements blanksBefore blanksBehind written further,
        by rw [sameBehind, separated]; simp⟩
    · contradiction
  · contradiction

theorem membersAreWritten_succ {budget : Nat} (valueIsWritten : ValueIsWritten budget)
    (membersAreWritten : MembersAreWritten budget) : MembersAreWritten (budget + 1) := by
  intro text members rest read
  rw [readMembers?] at read
  split at read
  · rename_i raw behindName readName
    rcases isMemberName_of_readName? readName with ⟨name, isName, rfl⟩
    split at read
    · rename_i json behindValue readValue
      rcases valueIsWritten _ _ _ readValue with ⟨before, inner, blanksBefore, written, rfl⟩
      rcases exists_skipBlanks behindValue with ⟨behind, blanksBehind, sameBehind⟩
      split at read
      · rename_i behindBrace closed
        cases read
        exact ⟨_, .member isName blanksBefore blanksBehind written,
          by rw [sameBehind, closed]; simp⟩
      · rename_i behindComma separated
        rcases Option.map_eq_some_iff.mp read with ⟨⟨others, left⟩, readOthers, sameOthers⟩
        cases sameOthers
        rcases membersAreWritten _ _ _ readOthers with ⟨more, further, rfl⟩
        exact ⟨_, .members isName blanksBefore blanksBehind written further,
          by rw [sameBehind, separated]; simp⟩
      · contradiction
    · contradiction
  · contradiction

theorem areWritten (budget : Nat) :
    ValueIsWritten budget ∧ ElementsAreWritten budget ∧ MembersAreWritten budget := by
  induction budget with
  | zero =>
      refine ⟨?_, ?_, ?_⟩
      · intro text json rest read
        contradiction
      · intro text elements rest read
        contradiction
      · intro text members rest read
        contradiction
  | succ budget inductionHypothesis =>
      rcases inductionHypothesis with ⟨value, elements, members⟩
      exact ⟨valueIsWritten_succ elements members, elementsAreWritten_succ value elements,
        membersAreWritten_succ value members⟩

/-- Whether a value has no end of its own, so that something has to stand behind it. -/
def IsNumeric (json : Json) : Prop :=
  ∃ lexeme, json = .number lexeme

theorem exists_first_of_value {json : Json} {text : Text} (written : IsWritten (.value json) text) :
    ∃ first others, text = first :: others ∧ isBlank first = false ∧ first ≠ ']' := by
  have ofDigit : ∀ {c : Char}, c.isDigit = true → isBlank c = false ∧ c ≠ ']' := by
    intro c digit
    have notBlank : ¬isBlank c = true := by
      rw [isBlank_iff]
      rintro (rfl | rfl | rfl | rfl) <;> contradiction
    exact ⟨by simpa using notBlank, by rintro rfl; contradiction⟩
  cases written with
  | null => exact ⟨'n', _, rfl, by decide, by decide⟩
  | true => exact ⟨'t', _, rfl, by decide, by decide⟩
  | false => exact ⟨'f', _, rfl, by decide, by decide⟩
  | number isNumber =>
      rcases isNumber with isUnsigned | ⟨unsigned, -, rfl⟩
      · rcases exists_digit_of_isUnsigned isUnsigned with ⟨first, others, rfl, digit⟩
        exact ⟨first, others, rfl, ofDigit digit⟩
      · exact ⟨'-', _, rfl, by decide, by decide⟩
  | string spelled => exact ⟨'"', _, rfl, by decide, by decide⟩
  | emptyArray areBlanks => exact ⟨'[', _, rfl, by decide, by decide⟩
  | array written => exact ⟨'[', _, rfl, by decide, by decide⟩
  | emptyObject areBlanks => exact ⟨'\x7b', _, rfl, by decide, by decide⟩
  | object written => exact ⟨'\x7b', _, rfl, by decide, by decide⟩

/-- Behind their blanks, elements begin with something that does not close their array. -/
theorem exists_first_of_elements {elements : List Json} {text : Text}
    (written : IsWritten (.elements elements) text) (rest : Text) :
    ∃ first others, skipBlanks (text ++ rest) = first :: others ∧ first ≠ ']' := by
  cases written with
  | element blanksBefore blanksBehind written =>
      rcases exists_first_of_value written with ⟨first, others, rfl, solid, notClosed⟩
      rw [List.append_assoc, skipBlanks_append blanksBefore]
      exact ⟨first, _, skipBlanks_cons solid _, notClosed⟩
  | elements blanksBefore blanksBehind written further =>
      rcases exists_first_of_value written with ⟨first, others, rfl, solid, notClosed⟩
      rw [List.append_assoc, skipBlanks_append blanksBefore]
      exact ⟨first, _, skipBlanks_cons solid _, notClosed⟩

theorem IsMemberName.skipBlanks_append {raw : RawString} {name : Text}
    (isName : IsMemberName raw name) (rest : Text) :
    ∃ others, skipBlanks (name ++ rest) = '"' :: others ∧
      readName? ('"' :: others) = some (raw, rest) := by
  rcases isName with ⟨before, spelling, behind, blanksBefore, blanksBehind, spelled, rfl⟩
  refine ⟨spelling ++ '"' :: (behind ++ ':' :: rest), ?_, ?_⟩
  · simp only [List.append_assoc, List.cons_append, List.nil_append]
    rw [Json.skipBlanks_append blanksBefore, skipBlanks_cons (by decide)]
  · have colon : skipBlanks (behind ++ ':' :: rest) = ':' :: rest := by
      rw [Json.skipBlanks_append blanksBehind, skipBlanks_cons (by decide)]
    simp only [readName?, readString?_of_isSpelled spelled, colon]

/-- Behind their blanks, members begin with a name. -/
theorem exists_first_of_members {members : List (RawString × Json)} {text : Text}
    (written : IsWritten (.members members) text) (rest : Text) :
    ∃ others, skipBlanks (text ++ rest) = '"' :: others := by
  cases written with
  | member isName blanksBefore blanksBehind written =>
      rw [List.append_assoc]
      rcases isName.skipBlanks_append _ with ⟨others, first, -⟩
      exact ⟨others, first⟩
  | members isName blanksBefore blanksBehind written further =>
      rw [List.append_assoc]
      rcases isName.skipBlanks_append _ with ⟨others, first, -⟩
      exact ⟨others, first⟩

theorem readValue?_skipBlanks (budget : Nat) (text : Text) :
    readValue? budget (skipBlanks text) = readValue? budget text := by
  cases budget with
  | zero => rfl
  | succ budget => rw [readValue?, readValue?, skipBlanks_skipBlanks]

theorem readElements?_skipBlanks (budget : Nat) (text : Text) :
    readElements? budget (skipBlanks text) = readElements? budget text := by
  cases budget with
  | zero => rfl
  | succ budget => rw [readElements?, readElements?, readValue?_skipBlanks]

theorem readMembers?_skipBlanks (budget : Nat) (text : Text) :
    readMembers? budget (skipBlanks text) = readMembers? budget text := by
  cases budget with
  | zero => rfl
  | succ budget => rw [readMembers?, readMembers?, skipBlanks_skipBlanks]

theorem stopsNumber_cons {c : Char} (stops : c.isDigit = false ∧ c ≠ '.' ∧ c ≠ 'e' ∧ c ≠ 'E')
    (rest : Text) : StopsNumber (c :: rest) := by
  intro first same
  cases same
  exact stops

theorem StopsNumber.blanks_append {blanks rest : Text} (areBlanks : AreBlanks blanks)
    (stops : StopsNumber rest) : StopsNumber (blanks ++ rest) := by
  cases blanks with
  | nil => exact stops
  | cons c blanks =>
      refine stopsNumber_cons ?_ _
      rcases areBlanks c List.mem_cons_self with rfl | rfl | rfl | rfl <;> decide

section Forms

variable {before : Text} (blanksBefore : AreBlanks before) (budget : Nat) (behind : Text)
include blanksBefore

theorem skipBlanks_blanks_cons {first : Char} (solid : isBlank first = false) :
    skipBlanks (before ++ first :: behind) = first :: behind := by
  rw [skipBlanks_append blanksBefore, skipBlanks_cons solid]

theorem readValue?_quote :
    readValue? (budget + 1) (before ++ '"' :: behind) =
      (readString? behind).map fun (raw, rest) => (.string raw, rest) := by
  rw [readValue?, skipBlanks_blanks_cons blanksBefore behind (by decide)]
  rfl

theorem readValue?_bracket :
    readValue? (budget + 1) (before ++ '[' :: behind) =
      match skipBlanks behind with
      | ']' :: rest => some (.array [], rest)
      | rest =>
        (readElements? budget rest).map fun (elements, rest) => (.array elements, rest) := by
  rw [readValue?, skipBlanks_blanks_cons blanksBefore behind (by decide)]
  rfl

theorem readValue?_brace :
    readValue? (budget + 1) (before ++ '\x7b' :: behind) =
      match skipBlanks behind with
      | '\x7d' :: rest => some (.object [], rest)
      | rest => (readMembers? budget rest).map fun (members, rest) => (.object members, rest) := by
  rw [readValue?, skipBlanks_blanks_cons blanksBefore behind (by decide)]
  rfl

/-- A value that opens nothing is a word or a number. -/
theorem readValue?_other {first : Char} (solid : isBlank first = false)
    (opensNothing : first ≠ '"' ∧ first ≠ '[' ∧ first ≠ '\x7b') :
    readValue? (budget + 1) (before ++ first :: behind) =
      match readWord? (first :: behind) with
      | some read => some read
      | none =>
        (readNumber? (first :: behind)).map fun (lexeme, rest) => (.number lexeme, rest) := by
  rw [readValue?, skipBlanks_blanks_cons blanksBefore behind solid]
  split
  · rename_i same
    exact absurd (List.cons.inj same).1 opensNothing.1
  · rename_i same
    exact absurd (List.cons.inj same).1 opensNothing.2.1
  · rename_i same
    exact absurd (List.cons.inj same).1 opensNothing.2.2
  · rfl

end Forms

/-- What it means for a reader to be complete on a stretch of text: with enough budget it reads all
of it and stops where it ends. -/
def Phrase.IsRead : Phrase → Text → Prop
  | .value json, text =>
      ∀ before budget rest, AreBlanks before → 2 * text.length ≤ budget + 1 →
        (json.IsNumeric → StopsNumber rest) →
        readValue? (budget + 1) (before ++ (text ++ rest)) = some (json, rest)
  | .elements items, text =>
      ∀ budget rest, 2 * text.length ≤ budget →
        readElements? (budget + 1) (text ++ ']' :: rest) = some (items, rest)
  | .members named, text =>
      ∀ budget rest, 2 * text.length ≤ budget →
        readMembers? (budget + 1) (text ++ '\x7d' :: rest) = some (named, rest)

theorem isRead_word {json : Json} {first : Char} {others : Text}
    (solid : isBlank first = false) (opensNothing : first ≠ '"' ∧ first ≠ '[' ∧ first ≠ '\x7b')
    (readsWord : ∀ rest, readWord? (first :: (others ++ rest)) = some (json, rest)) :
    Phrase.IsRead (.value json) (first :: others) := by
  intro before budget rest blanksBefore enough _
  rw [List.cons_append, readValue?_other blanksBefore _ _ solid opensNothing, readsWord]

theorem isRead_number {lexeme : Text} (isNumber : IsNumber lexeme) :
    Phrase.IsRead (.value (.number lexeme)) lexeme := by
  intro before budget rest blanksBefore enough stops
  rcases exists_first_of_value (.number isNumber) with ⟨first, others, rfl, solid, -⟩
  have signOrDigit : first = '-' ∨ first.isDigit = true := by
    rcases isNumber with isUnsigned | ⟨unsigned, -, same⟩
    · rcases exists_digit_of_isUnsigned isUnsigned with ⟨digit, behind, same, isDigit⟩
      cases same
      exact Or.inr isDigit
    · exact Or.inl (List.cons.inj same).1
  have differs : ∀ other : Char, ¬(other = '-' ∨ other.isDigit = true) → first ≠ other := by
    rintro other isNeither rfl
    exact isNeither signOrDigit
  have noWord : readWord? (first :: (others ++ rest)) = none := by
    have notNull := differs 'n' (by decide)
    have notTrue := differs 't' (by decide)
    have notFalse := differs 'f' (by decide)
    simp [readWord?, List.isPrefixOf, notNull.symm, notTrue.symm, notFalse.symm]
  have readsNumber := readNumber?_of_isNumber isNumber (stops ⟨_, rfl⟩)
  rw [List.cons_append] at readsNumber ⊢
  rw [readValue?_other blanksBefore _ _ solid
    ⟨differs _ (by decide), differs _ (by decide), differs _ (by decide)⟩, noWord, readsNumber]
  rfl

theorem isRead_string {raw : RawString} {spelling : Text} (spelled : raw.IsSpelled spelling) :
    Phrase.IsRead (.value (.string raw)) ('"' :: (spelling ++ ['"'])) := by
  intro before budget rest blanksBefore enough _
  rw [List.cons_append, List.append_assoc, List.singleton_append,
    readValue?_quote blanksBefore, readString?_of_isSpelled spelled]
  rfl

theorem isRead_emptyArray {blanks : Text} (areBlanks : AreBlanks blanks) :
    Phrase.IsRead (.value (.array [])) ('[' :: (blanks ++ [']'])) := by
  intro before budget rest blanksBefore enough _
  rw [List.cons_append, List.append_assoc, List.singleton_append,
    readValue?_bracket blanksBefore, skipBlanks_blanks_cons areBlanks rest (by decide)]
  rfl

theorem isRead_array {elements : List Json} {text : Text}
    (written : IsWritten (.elements elements) text)
    (isRead : Phrase.IsRead (.elements elements) text) :
    Phrase.IsRead (.value (.array elements)) ('[' :: (text ++ [']'])) := by
  intro before budget rest blanksBefore enough _
  simp only [List.length_cons, List.length_append, List.length_nil] at enough
  rcases Nat.exists_eq_succ_of_ne_zero (show budget ≠ 0 by omega) with ⟨less, rfl⟩
  rcases exists_first_of_elements written (']' :: rest) with ⟨first, others, begins, notClosed⟩
  have readsElements := isRead less rest (by omega)
  rw [← readElements?_skipBlanks, begins] at readsElements
  rw [List.cons_append, List.append_assoc, List.singleton_append, readValue?_bracket blanksBefore,
    begins]
  split
  · rename_i same
    exact absurd (List.cons.inj same).1 notClosed
  · rw [readsElements]
    rfl

theorem isRead_emptyObject {blanks : Text} (areBlanks : AreBlanks blanks) :
    Phrase.IsRead (.value (.object [])) ('\x7b' :: (blanks ++ ['\x7d'])) := by
  intro before budget rest blanksBefore enough _
  rw [List.cons_append, List.append_assoc, List.singleton_append,
    readValue?_brace blanksBefore, skipBlanks_blanks_cons areBlanks rest (by decide)]
  rfl

theorem isRead_object {members : List (RawString × Json)} {text : Text}
    (written : IsWritten (.members members) text)
    (isRead : Phrase.IsRead (.members members) text) :
    Phrase.IsRead (.value (.object members)) ('\x7b' :: (text ++ ['\x7d'])) := by
  intro before budget rest blanksBefore enough _
  simp only [List.length_cons, List.length_append, List.length_nil] at enough
  rcases Nat.exists_eq_succ_of_ne_zero (show budget ≠ 0 by omega) with ⟨less, rfl⟩
  rcases exists_first_of_members written ('\x7d' :: rest) with ⟨others, begins⟩
  have readsMembers := isRead less rest (by omega)
  rw [← readMembers?_skipBlanks, begins] at readsMembers
  rw [List.cons_append, List.append_assoc, List.singleton_append, readValue?_brace blanksBefore,
    begins]
  change Option.map _ (readMembers? (less + 1) ('"' :: others)) = _
  rw [readsMembers]
  rfl

theorem length_pos_of_value {json : Json} {text : Text} (written : IsWritten (.value json) text) :
    0 < text.length := by
  rcases exists_first_of_value written with ⟨first, others, rfl, -⟩
  exact Nat.succ_pos _

/-- A value is read where something that ends it stands behind it, perhaps behind blanks. -/
theorem Phrase.IsRead.value {json : Json} {text : Text} (isRead : IsRead (.value json) text)
    {before behind : Text} (blanksBefore : AreBlanks before) (blanksBehind : AreBlanks behind)
    (mark : Char) (ends : mark.isDigit = false ∧ mark ≠ '.' ∧ mark ≠ 'e' ∧ mark ≠ 'E')
    (solid : isBlank mark = false) (rest : Text) (budget : Nat)
    (enough : 2 * text.length ≤ budget + 1) :
    ∃ left, readValue? (budget + 1) (before ++ (text ++ (behind ++ mark :: rest))) =
        some (json, left) ∧ skipBlanks left = mark :: rest :=
  ⟨behind ++ mark :: rest,
    isRead before budget _ blanksBefore enough
      fun _ => (stopsNumber_cons ends rest).blanks_append blanksBehind,
    skipBlanks_blanks_cons blanksBehind rest solid⟩

/-- What is written is read. -/
theorem IsWritten.isRead {phrase : Phrase} {text : Text} (written : IsWritten phrase text) :
    phrase.IsRead text := by
  induction written with
  | null => exact isRead_word (by decide) (by decide) fun _ => rfl
  | true => exact isRead_word (by decide) (by decide) fun _ => rfl
  | false => exact isRead_word (by decide) (by decide) fun _ => rfl
  | number isNumber => exact isRead_number isNumber
  | string spelled => exact isRead_string spelled
  | emptyArray areBlanks => exact isRead_emptyArray areBlanks
  | array written isRead => exact isRead_array written isRead
  | emptyObject areBlanks => exact isRead_emptyObject areBlanks
  | object written isRead => exact isRead_object written isRead
  | element blanksBefore blanksBehind written isRead =>
      intro budget rest enough
      have positive := length_pos_of_value written
      simp only [List.length_append] at enough
      rcases Nat.exists_eq_succ_of_ne_zero (show budget ≠ 0 by omega) with ⟨less, rfl⟩
      rcases isRead.value blanksBefore blanksBehind ']' (by decide) (by decide) rest
        less (by omega) with ⟨left, readsValue, ends⟩
      simp only [List.append_assoc]
      rw [readElements?, readsValue]
      dsimp only
      rw [ends]
      rfl
  | elements blanksBefore blanksBehind written further isRead furtherIsRead =>
      intro budget rest enough
      have positive := length_pos_of_value written
      simp only [List.length_append, List.length_cons] at enough
      rcases Nat.exists_eq_succ_of_ne_zero (show budget ≠ 0 by omega) with ⟨less, rfl⟩
      rcases isRead.value blanksBefore blanksBehind ',' (by decide) (by decide)
        (_ ++ ']' :: rest) less (by omega) with ⟨left, readsValue, ends⟩
      simp only [List.append_assoc, List.cons_append]
      rw [readElements?, readsValue]
      dsimp only
      rw [ends]
      change Option.map _ (readElements? (less + 1) _) = _
      rw [furtherIsRead less rest (by omega)]
      rfl
  | member isName blanksBefore blanksBehind written isRead =>
      intro budget rest enough
      have positive := length_pos_of_value written
      simp only [List.length_append] at enough
      rcases Nat.exists_eq_succ_of_ne_zero (show budget ≠ 0 by omega) with ⟨less, rfl⟩
      rcases isRead.value blanksBefore blanksBehind '\x7d' (by decide) (by decide) rest
        less (by omega) with ⟨left, readsValue, ends⟩
      simp only [List.append_assoc]
      rcases isName.skipBlanks_append _ with ⟨others, begins, readsName⟩
      rw [readMembers?, begins, readsName]
      dsimp only
      rw [readsValue]
      dsimp only
      rw [ends]
      rfl
  | members isName blanksBefore blanksBehind written further isRead furtherIsRead =>
      intro budget rest enough
      have positive := length_pos_of_value written
      simp only [List.length_append, List.length_cons] at enough
      rcases Nat.exists_eq_succ_of_ne_zero (show budget ≠ 0 by omega) with ⟨less, rfl⟩
      rcases isRead.value blanksBefore blanksBehind ',' (by decide) (by decide)
        (_ ++ '\x7d' :: rest) less (by omega) with ⟨left, readsValue, ends⟩
      simp only [List.append_assoc, List.cons_append]
      rcases isName.skipBlanks_append _ with ⟨others, begins, readsName⟩
      rw [readMembers?, begins, readsName]
      dsimp only
      rw [readsValue]
      dsimp only
      rw [ends]
      change Option.map _ (readMembers? (less + 1) _) = _
      rw [furtherIsRead less rest (by omega)]
      rfl

theorem stopsNumber_of_areBlanks {blanks : Text} (areBlanks : AreBlanks blanks) :
    StopsNumber blanks := by
  have nothing : StopsNumber [] := by simp [StopsNumber]
  have stops := nothing.blanks_append areBlanks
  rwa [List.append_nil] at stops

theorem areBlanks_iff_skipBlanks {text : Text} :
    AreBlanks text ↔ (skipBlanks text).isEmpty = true := by
  rw [List.isEmpty_iff, skipBlanks, List.dropWhile_eq_nil_iff]
  exact forall₂_congr fun c _ => isBlank_iff.symm

/-- A text is read as a value exactly if the value is written in it, perhaps with blanks around. -/
theorem read?_eq_some_iff {text : Text} {json : Json} :
    read? text = some json ↔ IsTextOf json text := by
  constructor
  · intro read
    rw [read?] at read
    split at read
    · rename_i found rest readValue
      split at read
      · rename_i ended
        cases read
        rcases (areWritten _).1 _ _ _ readValue with ⟨before, inner, blanksBefore, written, same⟩
        exact ⟨before, inner, rest, blanksBefore, areBlanks_iff_skipBlanks.mpr ended, written, same⟩
      · contradiction
    · contradiction
  · rintro ⟨before, inner, behind, blanksBefore, blanksBehind, written, rfl⟩
    have enough : 2 * inner.length ≤ 2 * (before ++ (inner ++ behind)).length + 1 + 1 := by
      simp only [List.length_append]
      omega
    have readsValue := written.isRead before _ behind blanksBefore enough
      fun _ => stopsNumber_of_areBlanks blanksBehind
    rw [read?, budgetFor, readsValue]
    exact if_pos (areBlanks_iff_skipBlanks.mp blanksBehind)

/-- Behind a value that is no number, nothing but blanks may stand. -/
theorem read?_append_eq_none {text more : Text} {json : Json} (isText : IsTextOf json text)
    (closed : ¬json.IsNumeric) (further : ¬AreBlanks more) : read? (text ++ more) = none := by
  rcases isText with ⟨before, inner, behind, blanksBefore, blanksBehind, written, rfl⟩
  have enough :
      2 * inner.length ≤ 2 * (before ++ (inner ++ (behind ++ more))).length + 1 + 1 := by
    simp only [List.length_append]
    omega
  have readsValue := written.isRead before _ (behind ++ more) blanksBefore enough
    fun numeric => absurd numeric closed
  have notBlank : ¬(skipBlanks (behind ++ more)).isEmpty = true := by
    rw [skipBlanks_append blanksBehind, ← areBlanks_iff_skipBlanks]
    exact further
  simp only [List.append_assoc]
  rw [read?, budgetFor, readsValue]
  exact if_neg notBlank

end UploadProbe.Json
