import Mathlib
import UploadProbe.Proofs.ReceiptShapes

/-!
# Recognizing receipts

The receipt of a body is the one that its JSON text holds, and nothing else about the text counts:
neither how its strings are spelled, nor the order of its members, nor what other members say, nor
its blanks. Each of these changes keeps what the values of the fields tell, so that it neither makes
a receipt nor spoils one.
-/

namespace UploadProbe

/-- A change to how one of the strings in a value is spelled, where it may be the name of a
member. -/
inductive Json.Respells : Json → Json → Prop
  | string {raw other : RawString} (same : ∀ text, raw.Tells text ↔ other.Tells text) :
      Respells (.string raw) (.string other)
  | element {json other : Json} (before behind : List Json) (respells : Respells json other) :
      Respells (.array (before ++ json :: behind)) (.array (before ++ other :: behind))
  | value {json other : Json} (raw : RawString) (before behind : List (RawString × Json))
      (respells : Respells json other) :
      Respells (.object (before ++ (raw, json) :: behind))
        (.object (before ++ (raw, other) :: behind))
  | name {raw other : RawString} (json : Json) (before behind : List (RawString × Json))
      (same : ∀ text, raw.Tells text ↔ other.Tells text) :
      Respells (.object (before ++ (raw, json) :: behind))
        (.object (before ++ (other, json) :: behind))

namespace JobReceipt

/-- A change that is none to the receipt. -/
inductive Varies : Json → Json → Prop
  | respelled {json other : Json} (respells : json.Respells other) : Varies json other
  | reordered {members others : List (Json.RawString × Json)} (reorders : members.Perm others) :
      Varies (.object members) (.object others)
  | unknown {raw : Json.RawString} {name : Text} (value : Json)
      (before behind : List (Json.RawString × Json)) (tells : raw.Tells name)
      (isUnknown : ∀ field : Field, field.name ≠ name) :
      Varies (.object (before ++ behind)) (.object (before ++ (raw, value) :: behind))

/-- Whether two values are the same to every field. -/
structure Alike (value other : Json) : Prop where
  null : value = .null ↔ other = .null
  string (text : Text) : IsString value text ↔ IsString other text
  strings (texts : List Text) : AreStrings value texts ↔ AreStrings other texts

theorem Alike.refl (value : Json) : Alike value value :=
  ⟨.rfl, fun _ => .rfl, fun _ => .rfl⟩

theorem Alike.symm {value other : Json} (alike : Alike value other) : Alike other value :=
  ⟨alike.null.symm, fun text => (alike.string text).symm, fun texts => (alike.strings texts).symm⟩

theorem forall₂_replace {α : Type} {R : α → α → Prop} (reflexive : ∀ value, R value value)
    (before behind : List α) {value other : α} (related : R value other) :
    List.Forall₂ R (before ++ value :: behind) (before ++ other :: behind) :=
  have : Std.Refl R := ⟨reflexive⟩
  List.rel_append (List.forall₂_refl before) (.cons related (List.forall₂_refl behind))

theorem areStrings_iff_of_alike {elements others : List Json}
    (alike : List.Forall₂ Alike elements others) (texts : List Text) :
    List.Forall₂ IsString elements texts ↔ List.Forall₂ IsString others texts := by
  induction alike generalizing texts with
  | nil => rfl
  | cons first _ inductionHypothesis =>
      simp only [List.forall₂_cons_left_iff, first.string, inductionHypothesis]

theorem alike_of_respells {json other : Json} (respells : json.Respells other) :
    Alike json other := by
  induction respells with
  | string same => exact ⟨by simp, by simp [IsString, same], by simp [AreStrings]⟩
  | element before behind _ inductionHypothesis =>
      have elementwise := forall₂_replace Alike.refl before behind inductionHypothesis
      exact ⟨by simp, by simp [IsString], by simp [AreStrings, areStrings_iff_of_alike elementwise]⟩
  | value | name => exact ⟨by simp, by simp [IsString], by simp [AreStrings]⟩

/-- Whether two members are the same to every field. -/
def AreAlike (member other : Json.RawString × Json) : Prop :=
  (∀ text, member.1.Tells text ↔ other.1.Tells text) ∧ Alike member.2 other.2

theorem AreAlike.refl (member : Json.RawString × Json) : AreAlike member member :=
  ⟨fun _ => .rfl, .refl member.2⟩

theorem valuesOf_alike {members others : List (Json.RawString × Json)}
    (alike : List.Forall₂ AreAlike members others) (name : Text) :
    List.Forall₂ Alike (valuesOf members name) (valuesOf others name) := by
  induction alike with
  | nil => exact .nil
  | @cons member other _ _ first _ inductionHypothesis =>
      simp only [valuesOf, List.filter_cons, first.1 name] at inductionHypothesis ⊢
      split
      · exact .cons first.2 inductionHypothesis
      · exact inductionHypothesis

theorem getElem?_alike {elements others : List Json} (alike : List.Forall₂ Alike elements others)
    (position : Nat) : List.Forall₂ Alike elements[position]?.toList others[position]?.toList := by
  induction alike generalizing position with
  | nil => exact .nil
  | cons first _ inductionHypothesis =>
      cases position with
      | zero => exact .cons first .nil
      | succ position => simpa using inductionHypothesis position

/-- Respelling keeps the shape of a value, and what it has for each field. -/
theorem keeps_of_respells {json other : Json} (respells : json.Respells other) :
    (HasShape json ↔ HasShape other) ∧
      ∀ field, List.Forall₂ Alike (valuesIn json field) (valuesIn other field) := by
  cases respells with
  | string same => exact ⟨.rfl, fun _ => .nil⟩
  | element before behind respells =>
      refine ⟨by simp [HasShape], fun field => getElem?_alike ?_ field.position⟩
      exact forall₂_replace Alike.refl before behind (alike_of_respells respells)
  | value raw before behind respells =>
      refine ⟨by simp [HasShape, or_imp, forall_and], fun field => valuesOf_alike ?_ field.name⟩
      exact forall₂_replace AreAlike.refl before behind ⟨fun _ => .rfl, alike_of_respells respells⟩
  | name json before behind same =>
      refine ⟨by simp [HasShape, or_imp, forall_and, same], fun field =>
        valuesOf_alike ?_ field.name⟩
      exact forall₂_replace AreAlike.refl before behind ⟨same, .refl json⟩

theorem SaysNothing.of_alike {values others : List Json} (saysNothing : SaysNothing values)
    (alike : List.Forall₂ Alike values others) : SaysNothing others := by
  rcases saysNothing with rfl | rfl
  · cases alike
    exact .inl rfl
  · obtain ⟨other, _, first, rest, rfl⟩ := List.forall₂_cons_left_iff.mp alike
    cases rest
    rw [first.null.mp rfl]
    exact .inr rfl

/-- The only value of a field has a counterpart in values that tell the same. -/
theorem exists_only_of_alike {value : Json} {values others : List Json} (only : values = [value])
    (alike : List.Forall₂ Alike values others) : ∃ other, others = [other] ∧ Alike value other := by
  subst only
  obtain ⟨other, _, first, rest, rfl⟩ := List.forall₂_cons_left_iff.mp alike
  cases rest
  exact ⟨other, rfl, first⟩

/-- What holds of the values of the fields also holds of values that tell the same. -/
theorem HasValues.of_alike {receipt : JobReceipt} {values others : Field → List Json}
    (hasValues : receipt.HasValues values)
    (alike : ∀ field, List.Forall₂ Alike (values field) (others field)) :
    receipt.HasValues others := by
  have required {field : Field} {text : Text}
      (tells : ∃ value, values field = [value] ∧ IsString value text) :
      ∃ value, others field = [value] ∧ IsString value text := by
    obtain ⟨value, only, isString⟩ := tells
    obtain ⟨other, onlyOther, same⟩ := exists_only_of_alike only (alike field)
    exact ⟨other, onlyOther, (same.string text).mp isString⟩
  refine ⟨required hasValues.jobId, required hasValues.status, required hasValues.message, ?_, ?_⟩
  · rcases hasValues.yaraMatches with ⟨saysNothing, absent⟩ | ⟨value, texts, only, areStrings, told⟩
    · exact .inl ⟨saysNothing.of_alike (alike _), absent⟩
    · obtain ⟨other, onlyOther, same⟩ := exists_only_of_alike only (alike _)
      exact .inr ⟨other, texts, onlyOther, (same.strings texts).mp areStrings, told⟩
  · rcases hasValues.yaraSeverity with ⟨saysNothing, absent⟩ | ⟨value, text, only, isString, told⟩
    · exact .inl ⟨saysNothing.of_alike (alike _), absent⟩
    · obtain ⟨other, onlyOther, same⟩ := exists_only_of_alike only (alike _)
      exact .inr ⟨other, text, onlyOther, (same.string text).mp isString, told⟩

theorem isIn_iff_of_respells {json other : Json} (respells : json.Respells other)
    (receipt : JobReceipt) : receipt.IsIn json ↔ receipt.IsIn other := by
  obtain ⟨shape, alike⟩ := keeps_of_respells respells
  have back (field : Field) : List.Forall₂ Alike (valuesIn other field) (valuesIn json field) :=
    (alike field).flip.imp fun _ _ same => same.symm
  exact ⟨fun isIn => ⟨shape.mp isIn.1, isIn.2.of_alike alike⟩,
    fun isIn => ⟨shape.mpr isIn.1, isIn.2.of_alike back⟩⟩

/-- The values of a field do not depend on their order, since there is at most one. -/
theorem HasValues.of_perm {receipt : JobReceipt} {values others : Field → List Json}
    (hasValues : receipt.HasValues values) (perm : ∀ field, (values field).Perm (others field)) :
    receipt.HasValues others := by
  have same : values = others := by
    funext field
    have single := hasValues.length_le_one field
    match found : values field, single with
    | [], _ => exact (List.nil_perm.mp (found ▸ perm field)).symm
    | [value], _ => exact List.singleton_perm.mp (found ▸ perm field)
  exact same ▸ hasValues

theorem isIn_of_reordered {members others : List (Json.RawString × Json)}
    (reorders : members.Perm others) {receipt : JobReceipt}
    (isIn : receipt.IsIn (.object members)) : receipt.IsIn (.object others) := by
  refine ⟨fun member isMember => isIn.1 member (reorders.mem_iff.mpr isMember), ?_⟩
  exact isIn.2.of_perm fun field => (reorders.filter _).map _

theorem isIn_iff_of_unknown {raw : Json.RawString} {name : Text} (value : Json)
    (before behind : List (Json.RawString × Json)) (tells : raw.Tells name)
    (isUnknown : ∀ field : Field, field.name ≠ name) (receipt : JobReceipt) :
    receipt.IsIn (.object (before ++ behind)) ↔
      receipt.IsIn (.object (before ++ (raw, value) :: behind)) := by
  have shape : HasShape (.object (before ++ behind)) ↔
      HasShape (.object (before ++ (raw, value) :: behind)) := by
    have named : ∃ name, raw.Tells name := ⟨name, tells⟩
    simp [HasShape, or_imp, forall_and, named]
  have sameValues : valuesIn (.object (before ++ behind)) =
      valuesIn (.object (before ++ (raw, value) :: behind)) := by
    funext field
    have passedOver : ¬raw.Tells field.name := fun tellsField =>
      isUnknown field ((tells_iff_of_tells tells field.name).mp tellsField).symm
    simp [valuesIn, valuesOf, passedOver]
  rw [IsIn, IsIn, shape, sameValues]

theorem isIn_iff_of_varies {json other : Json} (varies : Varies json other)
    (receipt : JobReceipt) : receipt.IsIn json ↔ receipt.IsIn other := by
  cases varies with
  | respelled respells => exact isIn_iff_of_respells respells receipt
  | reordered reorders => exact ⟨isIn_of_reordered reorders, isIn_of_reordered reorders.symm⟩
  | unknown value before behind tells isUnknown =>
      exact isIn_iff_of_unknown value before behind tells isUnknown receipt

theorem isIn_iff_of_varied {json other : Json} (varied : Relation.EqvGen Varies json other)
    (receipt : JobReceipt) : receipt.IsIn json ↔ receipt.IsIn other := by
  induction varied with
  | rel _ _ varies => exact isIn_iff_of_varies varies receipt
  | refl => rfl
  | symm _ _ _ inductionHypothesis => exact inductionHypothesis.symm
  | trans _ _ _ _ _ first second => exact first.trans second

theorem HasValues.ne_nil {receipt : JobReceipt} {values : Field → List Json}
    (hasValues : receipt.HasValues values) {field : Field} (isRequired : field.IsRequired) :
    values field ≠ [] := by
  rcases hasValues.cases field with ⟨optional, _⟩ | ⟨value, only, _⟩
  · exact absurd isRequired optional
  · simp [only]

theorem HasValues.takes {receipt : JobReceipt} {values : Field → List Json}
    (hasValues : receipt.HasValues values) {field : Field} {value : Json}
    (isValue : value ∈ values field) : field.Takes value := by
  rcases hasValues.cases field with ⟨optional, nothing | null⟩ | ⟨only, isOnly, takes⟩
  · simp [nothing] at isValue
  · rw [null, List.mem_singleton] at isValue
    exact isValue ▸ Field.takes_null optional
  · rw [isOnly, List.mem_singleton] at isValue
    exact isValue ▸ takes

/-- Whether a field is repeated, missing or of the wrong type. -/
def IsSpoiled (json : Json) (field : Field) : Prop :=
  1 < (valuesIn json field).length ∨ field.IsRequired ∧ valuesIn json field = [] ∨
    ∃ value ∈ valuesIn json field, ¬field.Takes value

theorem not_isIn_of_isSpoiled {json : Json} {field : Field} (isSpoiled : IsSpoiled json field)
    (receipt : JobReceipt) : ¬receipt.IsIn json := by
  rintro ⟨_, hasValues⟩
  rcases isSpoiled with repeated | ⟨isRequired, missing⟩ | ⟨value, isValue, mistyped⟩
  · exact Nat.not_lt.mpr (hasValues.length_le_one field) repeated
  · exact hasValues.ne_nil isRequired missing
  · exact mistyped (hasValues.takes isValue)

theorem read?_eq_some_iff {text : Text} {receipt : JobReceipt} :
    read? text = some receipt ↔ ∃ json, Json.IsTextOf json text ∧ receipt.IsIn json := by
  simp only [read?, Option.bind_eq_some_iff, Json.read?_eq_some_iff, ofJson?_eq_some_iff]

theorem IsIn.not_isNumeric {receipt : JobReceipt} {json : Json} (isIn : receipt.IsIn json) :
    ¬json.IsNumeric := by
  rintro ⟨lexeme, rfl⟩
  exact isIn.1

theorem read?_of_isTextOf {json : Json} {text : Text} (isText : Json.IsTextOf json text) :
    read? text = ofJson? json := by
  rw [read?, Json.read?_eq_some_iff.mpr isText, Option.bind_some]

end JobReceipt

namespace Submission

open JobReceipt

/-- The receipt of a body is the one in its JSON text, if this has the shape of one. Whatever else
is written, and however it is spelled, makes no difference; a field that is repeated, missing or of
the wrong type does, and so does any text that follows. -/
theorem receipt?_recognizes (submission : Submission) :
    (∀ receipt, submission.receipt? = some receipt ↔
      ∃ json, Json.IsTextOf json submission.body ∧ receipt.IsIn json) ∧
    (∀ json, Json.IsTextOf json submission.body →
      (∀ (other : Json) (another : Submission), Relation.EqvGen Varies json other →
        Json.IsTextOf other another.body → another.receipt? = submission.receipt?) ∧
      ∀ field, IsSpoiled json field → submission.receipt? = none) ∧
    (∀ (another : Submission) (more : Text), submission.receipt? ≠ none → ¬Json.AreBlanks more →
      another.body = submission.body ++ more → another.receipt? = none) := by
  refine ⟨fun receipt => read?_eq_some_iff, fun json isText => ⟨?_, ?_⟩, ?_⟩
  · intro other another varied isOther
    refine Option.ext fun receipt => ?_
    rw [receipt?, receipt?, read?_of_isTextOf isText, read?_of_isTextOf isOther,
      ofJson?_eq_some_iff, ofJson?_eq_some_iff, isIn_iff_of_varied varied receipt]
  · intro field isSpoiled
    rw [receipt?, read?_of_isTextOf isText, Option.eq_none_iff_forall_ne_some]
    exact fun receipt isReceipt =>
      not_isIn_of_isSpoiled isSpoiled receipt (ofJson?_eq_some_iff.mp isReceipt)
  · intro another more isReceipt notBlank isLonger
    obtain ⟨receipt, isReceipt⟩ := Option.ne_none_iff_exists'.mp isReceipt
    obtain ⟨json, isText, isIn⟩ := read?_eq_some_iff.mp isReceipt
    rw [receipt?, JobReceipt.read?, isLonger,
      Json.read?_append_eq_none isText isIn.not_isNumeric notBlank, Option.bind_none]

/-- A member whose name and value are spelled without escapes. -/
def plainMember (name value : String) : Json.RawString × Json :=
  (name.toList.map .plain, .string (value.toList.map .plain))

/-- The text of an object whose members are written like this. -/
def objectText (members : List String) : Text :=
  '\x7b' :: (Text.joinWith [','] (members.map String.toList) ++ ['\x7d'])

theorem receipt?_of_queued_job :
    receipt? ⟨200, objectText ["\"job_id\":\"7\"", "\"status\":\"ok\"", "\"message\":\"\""]⟩ =
        some ⟨['7'], ['o', 'k'], [], none, none⟩ ∧
      receipt? ⟨200, objectText ["\"job_id\": \"\\u0037\"", "\"x\":[\"\\ud800\"]",
          "\"status\":\"ok\"", "\"message\":\"\""]⟩ =
        some ⟨['7'], ['o', 'k'], [], none, none⟩ ∧
      receipt? ⟨200, objectText ["\"job_id\":\"7\"", "\"status\":\"ok\""]⟩ = none ∧
      receipt? ⟨200, objectText ["\"job_id\":\"7\"", "\"status\":\"ok\"", "\"message\":\"\""] ++
        [';']⟩ = none := by
  have isReply : Json.IsTextOf
      (.object [plainMember "job_id" "7", plainMember "status" "ok", plainMember "message" ""])
      (objectText ["\"job_id\":\"7\"", "\"status\":\"ok\"", "\"message\":\"\""]) :=
    Json.read?_eq_some_iff.mp (by cbv)
  have isVaried : Json.IsTextOf
      (.object [("job_id".toList.map .plain, .string [.unit 0x37]),
        ([.plain 'x'], .array [.string [.unit 0xd800]]), plainMember "status" "ok",
        plainMember "message" ""])
      (objectText ["\"job_id\": \"\\u0037\"", "\"x\":[\"\\ud800\"]", "\"status\":\"ok\"",
        "\"message\":\"\""]) :=
    Json.read?_eq_some_iff.mp (by cbv)
  have isSpoiled : Json.IsTextOf
      (.object [plainMember "job_id" "7", plainMember "status" "ok"])
      (objectText ["\"job_id\":\"7\"", "\"status\":\"ok\""]) :=
    Json.read?_eq_some_iff.mp (by cbv)
  have sameText (text : Text) :
      Json.RawString.Tells ("7".toList.map .plain) text ↔
        Json.RawString.Tells [.unit 0x37] text := by
    rw [← Json.RawString.decode?_eq_some_iff, ← Json.RawString.decode?_eq_some_iff]
    rfl
  have recognized : receipt?
      ⟨200, objectText ["\"job_id\":\"7\"", "\"status\":\"ok\"", "\"message\":\"\""]⟩ =
        some ⟨['7'], ['o', 'k'], [], none, none⟩ := by
    decide +kernel
  refine ⟨recognized, ?_, ?_, ?_⟩
  · refine (((receipt?_recognizes _).2.1 _ isReply).1 _ ⟨200, _⟩ ?_ isVaried).trans recognized
    exact .trans _ _ _
      (.rel _ _ (.unknown (.array [.string [.unit 0xd800]]) [plainMember "job_id" "7"]
        [plainMember "status" "ok", plainMember "message" ""] (.plain .nil)
        fun field => by cases field <;> decide))
      (.rel _ _ (.respelled (.value ("job_id".toList.map .plain) [] _ (.string sameText))))
  · exact ((receipt?_recognizes ⟨200, _⟩).2.1 _ isSpoiled).2 .message
      (.inr (.inl ⟨trivial, by decide +kernel⟩))
  · refine (receipt?_recognizes ⟨200, _⟩).2.2 _ [';'] (recognized ▸ Option.some_ne_none _) ?_ rfl
    exact fun areBlanks => absurd (areBlanks ';' (by simp)) (by decide)

end Submission

end UploadProbe
