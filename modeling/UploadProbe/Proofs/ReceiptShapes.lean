import Mathlib
import UploadProbe.Proofs.JsonReading
import UploadProbe.Proofs.Utf8
import UploadProbe.Upload.Outcome

/-!
# The shapes of receipts

A receipt is an object whose members have names that can be read, or an array of three to five
elements. Its fields have the values of the members of their names, or of the elements at their
positions: a required field has one value, a string, and an optional one has at most one, which may
be null. The readers of values, of elements and of members accept exactly these shapes.
-/

namespace UploadProbe

namespace JobReceipt

/-- Whether a value is a string that tells a text. -/
def IsString (value : Json) (text : Text) : Prop :=
  ∃ raw, value = .string raw ∧ raw.Tells text

/-- Whether a value is an array of strings that tell some texts. -/
def AreStrings (value : Json) (texts : List Text) : Prop :=
  ∃ elements, value = .array elements ∧ List.Forall₂ IsString elements texts

/-- Whether a field without any value, or with null, tells nothing. -/
def SaysNothing (values : List Json) : Prop :=
  values = [] ∨ values = [.null]

namespace Field

def IsRequired : Field → Prop
  | .jobId | .status | .message => True
  | .yaraMatches | .yaraSeverity => False

/-- Whether a field can have a value. -/
def Takes : Field → Json → Prop
  | .jobId | .status | .message => fun value => ∃ text, IsString value text
  | .yaraMatches => fun value => value = .null ∨ ∃ texts, AreStrings value texts
  | .yaraSeverity => fun value => value = .null ∨ ∃ text, IsString value text

/-- Where the value of a field stands in the array form. -/
def position : Field → Nat
  | .jobId => 0
  | .status => 1
  | .message => 2
  | .yaraMatches => 3
  | .yaraSeverity => 4

theorem mem_all (field : Field) : field ∈ all := by
  cases field <;> decide

theorem takes_null {field : Field} (optional : ¬field.IsRequired) : field.Takes .null := by
  cases field with
  | jobId | status | message => exact absurd trivial optional
  | yaraMatches | yaraSeverity => exact .inl rfl

end Field

/-- Whether a receipt holds what the values of its fields tell. -/
structure HasValues (receipt : JobReceipt) (values : Field → List Json) : Prop where
  jobId : ∃ value, values .jobId = [value] ∧ IsString value receipt.jobId
  status : ∃ value, values .status = [value] ∧ IsString value receipt.status
  message : ∃ value, values .message = [value] ∧ IsString value receipt.message
  yaraMatches : SaysNothing (values .yaraMatches) ∧ receipt.yaraMatches = none ∨
    ∃ value texts, values .yaraMatches = [value] ∧ AreStrings value texts ∧
      receipt.yaraMatches = some texts
  yaraSeverity : SaysNothing (values .yaraSeverity) ∧ receipt.yaraSeverity = none ∨
    ∃ value text, values .yaraSeverity = [value] ∧ IsString value text ∧
      receipt.yaraSeverity = some text

/-- The values of the members of a name. -/
def valuesOf (members : List (Json.RawString × Json)) (name : Text) : List Json :=
  (members.filter fun member => member.1.Tells name).map Prod.snd

/-- The values of a field in a JSON value. -/
def valuesIn : Json → Field → List Json
  | .object members, field => valuesOf members field.name
  | .array elements, field => elements[field.position]?.toList
  | _, _ => []

/-- Whether a JSON value is an object whose names can be read, or an array of the right length. -/
def HasShape : Json → Prop
  | .object members => ∀ member ∈ members, ∃ name, member.1.Tells name
  | .array elements => 3 ≤ elements.length ∧ elements.length ≤ 5
  | _ => False

/-- Whether a JSON value is a certain receipt. -/
def IsIn (receipt : JobReceipt) (json : Json) : Prop :=
  HasShape json ∧ receipt.HasValues (valuesIn json)

theorem textOf?_eq_some_iff {value : Json} {text : Text} :
    textOf? value = some text ↔ IsString value text := by
  cases value with
  | string raw => simp [textOf?, IsString, Json.RawString.decode?_eq_some_iff]
  | null | bool _ | number _ | array _ | object _ => simp [textOf?, IsString]

theorem mapM_textOf?_eq_some_iff {values : List Json} {texts : List Text} :
    values.mapM textOf? = some texts ↔ List.Forall₂ IsString values texts := by
  simp only [Utf8.mapM_eq_some_iff_forall₂, textOf?_eq_some_iff]

theorem optionalTextOf?_eq_some_iff {value : Json} {told : Option Text} :
    optionalTextOf? value = some told ↔
      value = .null ∧ told = none ∨ ∃ text, IsString value text ∧ told = some text := by
  cases value with
  | null => simp [optionalTextOf?, IsString, eq_comm]
  | string raw =>
      simp [optionalTextOf?, textOf?, IsString, ← Json.RawString.decode?_eq_some_iff,
        eq_comm (a := told)]
  | bool _ | number _ | array _ | object _ => simp [optionalTextOf?, textOf?, IsString]

theorem optionalTextsOf?_eq_some_iff {value : Json} {told : Option (List Text)} :
    optionalTextsOf? value = some told ↔
      value = .null ∧ told = none ∨ ∃ texts, AreStrings value texts ∧ told = some texts := by
  cases value with
  | null => simp [optionalTextsOf?, AreStrings, eq_comm]
  | array elements =>
      simp [optionalTextsOf?, AreStrings, mapM_textOf?_eq_some_iff, eq_comm (a := told)]
  | bool _ | number _ | string _ | object _ => simp [optionalTextsOf?, AreStrings]

section Single

variable {values : List Json} (single : values.length ≤ 1)

include single

theorem head?_eq_some_iff {value : Json} : values.head? = some value ↔ values = [value] := by
  match values, single with
  | [], _ => simp
  | [other], _ => simp

theorem optionalTextOf?_head?_eq_some_iff {told : Option Text} :
    optionalTextOf? (values.head?.getD .null) = some told ↔
      SaysNothing values ∧ told = none ∨
        ∃ value text, values = [value] ∧ IsString value text ∧ told = some text := by
  match values, single with
  | [], _ => simp [optionalTextOf?_eq_some_iff, SaysNothing, IsString]
  | [value], _ => simp [optionalTextOf?_eq_some_iff, SaysNothing]

theorem optionalTextsOf?_head?_eq_some_iff {told : Option (List Text)} :
    optionalTextsOf? (values.head?.getD .null) = some told ↔
      SaysNothing values ∧ told = none ∨
        ∃ value texts, values = [value] ∧ AreStrings value texts ∧ told = some texts := by
  match values, single with
  | [], _ => simp [optionalTextsOf?_eq_some_iff, SaysNothing, AreStrings]
  | [value], _ => simp [optionalTextsOf?_eq_some_iff, SaysNothing]

end Single

/-- The receipt of the values of each field, of which there is at most one. -/
def ofSingles? (values : Field → List Json) : Option JobReceipt := do
  let jobId ← (values .jobId).head?
  let status ← (values .status).head?
  let message ← (values .message).head?
  ofValues? jobId status message (values .yaraMatches).head? (values .yaraSeverity).head?

theorem ofSingles?_eq_some_iff {values : Field → List Json}
    (single : ∀ field, (values field).length ≤ 1) {receipt : JobReceipt} :
    ofSingles? values = some receipt ↔ receipt.HasValues values := by
  simp only [ofSingles?, ofValues?, bind, pure, Option.bind_eq_some_iff, Option.some.injEq,
    head?_eq_some_iff (single _), textOf?_eq_some_iff,
    optionalTextOf?_head?_eq_some_iff (single _), optionalTextsOf?_head?_eq_some_iff (single _)]
  constructor
  · rintro ⟨_, only, _, onlyStatus, _, onlyMessage, _, isId, _, isStatus, _, isMessage, _,
      areMatches, _, isSeverity, rfl⟩
    exact ⟨⟨_, only, isId⟩, ⟨_, onlyStatus, isStatus⟩, ⟨_, onlyMessage, isMessage⟩, areMatches,
      isSeverity⟩
  · rintro ⟨⟨_, only, isId⟩, ⟨_, onlyStatus, isStatus⟩, ⟨_, onlyMessage, isMessage⟩, areMatches,
      isSeverity⟩
    exact ⟨_, only, _, onlyStatus, _, onlyMessage, _, isId, _, isStatus, _, isMessage, _,
      areMatches, _, isSeverity, rfl⟩

/-- Each field of a receipt has one value that it can have, or says nothing if it may. -/
theorem HasValues.cases {receipt : JobReceipt} {values : Field → List Json}
    (hasValues : receipt.HasValues values) (field : Field) :
    (¬field.IsRequired ∧ SaysNothing (values field)) ∨
      ∃ value, values field = [value] ∧ field.Takes value := by
  cases field with
  | jobId =>
      obtain ⟨value, only, isString⟩ := hasValues.jobId
      exact .inr ⟨value, only, _, isString⟩
  | status =>
      obtain ⟨value, only, isString⟩ := hasValues.status
      exact .inr ⟨value, only, _, isString⟩
  | message =>
      obtain ⟨value, only, isString⟩ := hasValues.message
      exact .inr ⟨value, only, _, isString⟩
  | yaraMatches =>
      rcases hasValues.yaraMatches with ⟨saysNothing, _⟩ | ⟨value, texts, only, areStrings, _⟩
      · exact .inl ⟨id, saysNothing⟩
      · exact .inr ⟨value, only, .inr ⟨texts, areStrings⟩⟩
  | yaraSeverity =>
      rcases hasValues.yaraSeverity with ⟨saysNothing, _⟩ | ⟨value, text, only, isString, _⟩
      · exact .inl ⟨id, saysNothing⟩
      · exact .inr ⟨value, only, .inr ⟨text, isString⟩⟩

/-- A receipt only has values of which each field has at most one. -/
theorem HasValues.length_le_one {receipt : JobReceipt} {values : Field → List Json}
    (hasValues : receipt.HasValues values) (field : Field) : (values field).length ≤ 1 := by
  rcases hasValues.cases field with ⟨_, nothing | null⟩ | ⟨value, only, _⟩
  · simp [nothing]
  · simp [null]
  · simp [only]

theorem ofElements?_eq_some_iff {elements : List Json} {receipt : JobReceipt} :
    ofElements? elements = some receipt ↔ receipt.IsIn (.array elements) := by
  have single (field : Field) : (valuesIn (.array elements) field).length ≤ 1 := by
    cases found : elements[field.position]? <;> simp [valuesIn, found]
  rw [IsIn, ← ofSingles?_eq_some_iff single]
  match elements with
  | [] | [_] | [_, _] => simp [ofElements?, HasShape]
  | [_, _, _] | [_, _, _, _] | [_, _, _, _, _] =>
      exact (and_iff_right ⟨by simp, by simp⟩).symm
  | _ :: _ :: _ :: _ :: _ :: _ :: _ => simp [ofElements?, HasShape]

/-- Whether the names of members were read. -/
def AreNamed (members : List (Json.RawString × Json)) (named : List (Text × Json)) : Prop :=
  List.Forall₂ (fun member name => member.1.Tells name.1 ∧ member.2 = name.2) members named

theorem mapM_decode?_eq_some_iff {members : List (Json.RawString × Json)}
    {named : List (Text × Json)} :
    (members.mapM fun (raw, value) => raw.decode?.map (·, value)) = some named ↔
      AreNamed members named := by
  have pointwise (member : Json.RawString × Json) (name : Text × Json) :
      member.1.decode?.map (·, member.2) = some name ↔
        member.1.Tells name.1 ∧ member.2 = name.2 := by
    rw [Option.map_eq_some_iff, ← Json.RawString.decode?_eq_some_iff]
    simp [Prod.ext_iff]
  simp only [Utf8.mapM_eq_some_iff_forall₂, AreNamed, pointwise]

/-- The names of members can be read exactly if each tells something. -/
theorem exists_areNamed_iff {members : List (Json.RawString × Json)} :
    (∃ named, AreNamed members named) ↔ HasShape (.object members) := by
  induction members with
  | nil => simp [AreNamed, HasShape]
  | cons member members inductionHypothesis =>
      simp only [HasShape, List.forall_mem_cons] at inductionHypothesis ⊢
      rw [← inductionHypothesis]
      constructor
      · rintro ⟨_, _ | ⟨⟨tells, _⟩, areNamed⟩⟩
        exact ⟨⟨_, tells⟩, _, areNamed⟩
      · rintro ⟨⟨name, tells⟩, named, areNamed⟩
        exact ⟨(name, member.2) :: named, .cons ⟨tells, rfl⟩ areNamed⟩

theorem tells_iff_of_tells {raw : Json.RawString} {name : Text} (tells : raw.Tells name)
    (other : Text) : raw.Tells other ↔ name = other := by
  rw [← Json.RawString.decode?_eq_some_iff] at tells ⊢
  simp [tells]

theorem AreNamed.valuesOf {members : List (Json.RawString × Json)} {named : List (Text × Json)}
    (areNamed : AreNamed members named) (name : Text) :
    valuesOf members name = (named.filter fun member => member.1 = name).map Prod.snd := by
  induction areNamed with
  | nil => rfl
  | @cons member first members others isNamed _ inductionHypothesis =>
      simp only [JobReceipt.valuesOf, List.filter_cons, tells_iff_of_tells isNamed.1]
        at inductionHypothesis ⊢
      by_cases isName : first.1 = name
      · simp [isName, isNamed.2, inductionHypothesis]
      · simp [isName, inductionHypothesis]

theorem AreNamed.valueOf {members : List (Json.RawString × Json)} {named : List (Text × Json)}
    (areNamed : AreNamed members named) (field : Field) :
    valueOf field named = (valuesIn (.object members) field).head? := by
  simp [valuesIn, areNamed.valuesOf, JobReceipt.valueOf]

theorem AreNamed.occursAtMostOnce_iff {members : List (Json.RawString × Json)}
    {named : List (Text × Json)} (areNamed : AreNamed members named) (field : Field) :
    occursAtMostOnce named field = true ↔ (valuesIn (.object members) field).length ≤ 1 := by
  simp [valuesIn, areNamed.valuesOf, occursAtMostOnce]

theorem ofMembers?_eq_some_iff {members : List (Json.RawString × Json)} {receipt : JobReceipt} :
    ofMembers? members = some receipt ↔ receipt.IsIn (.object members) := by
  have ofNamed {named : List (Text × Json)} (areNamed : AreNamed members named) :
      ofMembers? members = some receipt ↔ receipt.HasValues (valuesIn (.object members)) := by
    rw [ofMembers?, mapM_decode?_eq_some_iff.mpr areNamed]
    simp only [bind, Option.bind_some, areNamed.valueOf]
    split
    · next atMostOnce =>
        have single (field : Field) : (valuesIn (.object members) field).length ≤ 1 :=
          areNamed.occursAtMostOnce_iff field |>.mp
            (List.all_eq_true.mp atMostOnce field (field.mem_all))
        exact ofSingles?_eq_some_iff single
    · next repeated =>
        refine iff_of_false (by simp) fun hasValues => repeated (List.all_eq_true.mpr ?_)
        intro field _
        exact (areNamed.occursAtMostOnce_iff field).mpr (hasValues.length_le_one field)
  constructor
  · intro isReceipt
    obtain ⟨named, isNamed, _⟩ := Option.bind_eq_some_iff.mp isReceipt
    have areNamed := mapM_decode?_eq_some_iff.mp isNamed
    exact ⟨exists_areNamed_iff.mp ⟨named, areNamed⟩, (ofNamed areNamed).mp isReceipt⟩
  · rintro ⟨hasShape, hasValues⟩
    obtain ⟨named, areNamed⟩ := exists_areNamed_iff.mpr hasShape
    exact (ofNamed areNamed).mpr hasValues

theorem ofJson?_eq_some_iff {json : Json} {receipt : JobReceipt} :
    ofJson? json = some receipt ↔ receipt.IsIn json := by
  cases json with
  | array elements => exact ofElements?_eq_some_iff
  | object members => exact ofMembers?_eq_some_iff
  | null | bool _ | number _ | string _ => simp [ofJson?, IsIn, HasShape]

end JobReceipt

end UploadProbe
