import Mathlib
import UploadProbe.Failure

/-!
# What descriptions tell

A description grows with every cause: it keeps its beginning, and it ends with the cause that came
last, whether that was said again or not. So no cause is lost, and describing goes on from a
description as it goes on from the causes in it. What is joined are the causes that the description
of those before them does not end with. To compare each cause with the one right before it would
mostly come to the same, and would never tell less; the two differ where a cause ends what several
causes before it say together, or what was said before an earlier repetition.
-/

namespace UploadProbe

section Next

variable {accumulated cause : Text}

theorem describeNext_of_isSuffix (quoted : cause <:+ accumulated) :
    describeNext accumulated cause = accumulated := by
  rw [describeNext, if_pos (List.isSuffixOf_iff_suffix.mpr quoted)]

@[simp]
theorem describeNext_nil (cause : Text) : describeNext [] cause = cause := by
  cases cause with
  | nil => rfl
  | cons c cause => simp [describeNext]

theorem describeNext_of_not_isSuffix (fresh : ¬ cause <:+ accumulated)
    (nonempty : accumulated ≠ []) :
    describeNext accumulated cause = accumulated ++ causeSeparator ++ cause := by
  rw [describeNext, if_neg (mt List.isSuffixOf_iff_suffix.mp fresh), if_neg (by simpa)]

theorem isPrefix_describeNext (accumulated cause : Text) :
    accumulated <+: describeNext accumulated cause := by
  unfold describeNext
  split
  · exact List.prefix_rfl
  split
  · next nothing => simp [List.isEmpty_iff.mp nothing]
  · rw [List.append_assoc]
    exact List.prefix_append _ _

/-- Behind a cause the description ends with it, whether the cause was said again or not. -/
theorem isSuffix_describeNext (accumulated cause : Text) :
    cause <:+ describeNext accumulated cause := by
  unfold describeNext
  split
  · next quoted => exact List.isSuffixOf_iff_suffix.mp quoted
  split
  · exact List.suffix_rfl
  · exact List.suffix_append _ _

end Next

theorem describe_cons (cause : Text) (causes : List Text) :
    describe (cause :: causes) = causes.foldl describeNext cause := by
  rw [describe, List.foldl_cons, describeNext_nil]

theorem describe_append (before behind : List Text) :
    describe (before ++ behind) = behind.foldl describeNext (describe before) :=
  List.foldl_append

theorem isPrefix_foldl_describeNext (accumulated : Text) (causes : List Text) :
    accumulated <+: causes.foldl describeNext accumulated :=
  List.foldlRecOn (motive := fun described => accumulated <+: described) causes _
    List.prefix_rfl fun _ before _ _ => before.trans (isPrefix_describeNext _ _)

theorem isPrefix_describe_append (before behind : List Text) :
    describe before <+: describe (before ++ behind) := by
  rw [describe_append]
  exact isPrefix_foldl_describeNext _ _

/-- A description begins with its first cause. -/
theorem isPrefix_describe (cause : Text) (causes : List Text) :
    cause <+: describe (cause :: causes) := by
  rw [describe_cons]
  exact isPrefix_foldl_describeNext _ _

/-- A description ends with its last cause. -/
theorem isSuffix_describe (causes : List Text) (cause : Text) :
    cause <:+ describe (causes ++ [cause]) := by
  rw [describe_append]
  exact isSuffix_describeNext _ _

/-- Every cause can be found in the description. -/
theorem isInfix_describe {cause : Text} {causes : List Text} (member : cause ∈ causes) :
    cause <:+: describe causes := by
  obtain ⟨before, behind, rfl⟩ := List.append_of_mem member
  rw [← List.singleton_append, ← List.append_assoc]
  exact (isSuffix_describe before cause).isInfix.trans (isPrefix_describe_append _ behind).isInfix

/-- Causes that end one another add nothing to the first. -/
theorem foldl_describeNext_of_isChain {accumulated previous : Text} {causes : List Text}
    (ends : previous <:+ accumulated)
    (quoted : (previous :: causes).IsChain fun previous cause => cause <:+ previous) :
    causes.foldl describeNext accumulated = accumulated := by
  induction causes generalizing previous with
  | nil => rfl
  | cons cause causes inductionHypothesis =>
      rw [List.isChain_cons_cons] at quoted
      have ended : cause <:+ accumulated := quoted.1.trans ends
      rw [List.foldl_cons, describeNext_of_isSuffix ended]
      exact inductionHypothesis ended quoted.2

namespace Text

theorem joinWith_cons (separator first : Text) (pieces : List Text) :
    joinWith separator (first :: pieces) = first ++ pieces.flatMap (separator ++ ·) := by
  induction pieces generalizing first with
  | nil => simp [joinWith]
  | cons piece pieces inductionHypothesis =>
      rw [joinWith, inductionHypothesis, List.flatMap_cons, List.append_assoc, List.append_assoc]
      simp

/-- What is joined gets shorter if pieces are left out. -/
theorem eq_or_length_flatMap_lt {separator : Text} (nonempty : separator ≠ [])
    {pieces others : List Text} (fewer : pieces.Sublist others) :
    pieces = others ∨ (pieces.flatMap (separator ++ ·)).length <
      (others.flatMap (separator ++ ·)).length := by
  have positive := List.length_pos_iff.mpr nonempty
  induction fewer with
  | slnil => exact .inl rfl
  | cons piece _ inductionHypothesis =>
      right
      rw [List.flatMap_cons, List.length_append, List.length_append]
      rcases inductionHypothesis with rfl | shorter <;> omega
  | cons_cons piece _ inductionHypothesis =>
      rcases inductionHypothesis with rfl | shorter
      · exact .inl rfl
      · right
        simp only [List.flatMap_cons, List.length_append]
        omega

end Text

/-- The causes that do not end the texts beside them. -/
def newBehind (texts causes : List Text) : List Text :=
  ((texts.zip causes).filter fun (text, cause) => !cause.isSuffixOf text).map Prod.snd

/-- The causes that a description tells, each compared with the description of those before it. -/
def toldCauses (causes : List Text) : List Text :=
  newBehind (causes.inits.map describe) causes

section New

variable {text cause : Text} {texts causes : List Text}

theorem newBehind_nil (texts : List Text) : newBehind texts [] = [] := by
  simp [newBehind]

theorem newBehind_of_isSuffix (quoted : cause <:+ text) :
    newBehind (text :: texts) (cause :: causes) = newBehind texts causes := by
  simp [newBehind, List.isSuffixOf_iff_suffix.mpr quoted]

theorem newBehind_of_not_isSuffix (fresh : ¬ cause <:+ text) :
    newBehind (text :: texts) (cause :: causes) = cause :: newBehind texts causes := by
  simp [newBehind, mt List.isSuffixOf_iff_suffix.mp fresh]

theorem newBehind_sublist (texts causes : List Text) : (newBehind texts causes).Sublist causes := by
  induction causes generalizing texts with
  | nil => rw [newBehind_nil]
  | cons cause causes inductionHypothesis =>
      cases texts with
      | nil => exact List.nil_sublist _
      | cons text texts =>
          by_cases quoted : cause <:+ text
          · rw [newBehind_of_isSuffix quoted]
            exact (inductionHypothesis texts).cons cause
          · rw [newBehind_of_not_isSuffix quoted]
            exact (inductionHypothesis texts).cons_cons cause

theorem toldCauses_sublist (causes : List Text) : (toldCauses causes).Sublist causes :=
  newBehind_sublist _ _

end New

section Compared

variable {said previous : Text} {causes : List Text}

/-- The texts that causes are compared with are the descriptions of the causes before them. -/
theorem map_inits_cons (said cause : Text) (causes : List Text) :
    (cause :: causes).inits.map (List.foldl describeNext said) =
      said :: causes.inits.map (List.foldl describeNext (describeNext said cause)) := by
  rw [List.inits_cons, List.map_cons, List.map_map]
  rfl

/-- What has been said is joined already, and what follows it is joined to it. -/
theorem foldl_describeNext_eq (nonempty : said ≠ []) (causes : List Text) :
    causes.foldl describeNext said =
      said ++ (newBehind (causes.inits.map (List.foldl describeNext said)) causes).flatMap
        (causeSeparator ++ ·) := by
  induction causes generalizing said with
  | nil => simp [newBehind_nil]
  | cons cause causes inductionHypothesis =>
      have remains : describeNext said cause ≠ [] := fun nothing =>
        nonempty (List.prefix_nil.mp (nothing ▸ isPrefix_describeNext said cause))
      rw [List.foldl_cons, map_inits_cons, inductionHypothesis remains]
      by_cases quoted : cause <:+ said
      · rw [newBehind_of_isSuffix quoted, describeNext_of_isSuffix quoted]
      · rw [newBehind_of_not_isSuffix quoted, describeNext_of_not_isSuffix quoted nonempty,
          List.flatMap_cons]
        simp only [List.append_assoc]

/-- Empty causes at the beginning tell nothing; the first that is not empty is told. -/
theorem toldCauses_cons (first : Text) (causes : List Text) :
    toldCauses (first :: causes) =
      if first = [] then toldCauses causes
      else first :: newBehind (causes.inits.map (List.foldl describeNext first)) causes := by
  have compared : toldCauses (first :: causes) =
      newBehind ([] :: causes.inits.map (List.foldl describeNext first)) (first :: causes) := by
    rw [← describeNext_nil first, ← map_inits_cons, describeNext_nil]
    rfl
  rw [compared]
  split
  · next nothing =>
    rw [nothing, newBehind_of_isSuffix List.suffix_rfl]
    rfl
  · next something => rw [newBehind_of_not_isSuffix (mt List.suffix_nil.mp something)]

/-- A description joins the causes that it tells. -/
theorem describe_eq_joinWith (causes : List Text) :
    describe causes = Text.joinWith causeSeparator (toldCauses causes) := by
  induction causes with
  | nil => rfl
  | cons first causes inductionHypothesis =>
      rw [toldCauses_cons]
      split
      · next nothing => rw [nothing, describe_cons, ← inductionHypothesis, describe]
      · next something =>
        rw [describe_cons, foldl_describeNext_eq something, Text.joinWith_cons]

/-- Whoever compares with the cause right before leaves out no more. -/
theorem newBehind_sublist_neighbours (ends : previous <:+ said) (causes : List Text) :
    (newBehind (causes.inits.map (List.foldl describeNext said)) causes).Sublist
      (newBehind (previous :: causes) causes) := by
  induction causes generalizing said previous with
  | nil => rw [newBehind_nil, newBehind_nil]
  | cons cause causes inductionHypothesis =>
      have further := inductionHypothesis (isSuffix_describeNext said cause)
      rw [map_inits_cons]
      by_cases neighbour : cause <:+ previous
      · rw [newBehind_of_isSuffix neighbour, newBehind_of_isSuffix (neighbour.trans ends)]
        exact further
      rw [newBehind_of_not_isSuffix neighbour]
      by_cases quoted : cause <:+ said
      · rw [newBehind_of_isSuffix quoted]
        exact further.cons cause
      · rw [newBehind_of_not_isSuffix quoted]
        exact further.cons_cons cause

/-- What holds wherever a list can be divided before an element holds for its head and, with the
head in front, for what follows. -/
theorem forall_divided_cons_iff {holds : List Text → Text → Prop} {cause : Text} :
    (∀ before next behind, cause :: causes = before ++ next :: behind → holds before next) ↔
      holds [] cause ∧
        ∀ before next behind, causes = before ++ next :: behind → holds (cause :: before) next := by
  constructor
  · intro everywhere
    refine ⟨everywhere [] cause causes rfl, ?_⟩
    rintro before next behind rfl
    exact everywhere (cause :: before) next behind rfl
  · rintro ⟨head, further⟩ before next behind divided
    cases before with
    | nil =>
        cases divided
        exact head
    | cons _ before =>
        cases divided
        exact further before next behind rfl

/-- Comparing with the causes right before comes to the same exactly as long as whatever ends all
that has been said ends the last of it. -/
theorem newBehind_eq_neighbours_iff (ends : previous <:+ said) :
    newBehind (causes.inits.map (List.foldl describeNext said)) causes =
        newBehind (previous :: causes) causes ↔
      ∀ before cause behind, causes = before ++ cause :: behind →
        cause <:+ before.foldl describeNext said → cause <:+ before.getLastD previous := by
  induction causes generalizing said previous with
  | nil => simp [newBehind_nil]
  | cons cause causes inductionHypothesis =>
      have next : cause <:+ describeNext said cause := isSuffix_describeNext said cause
      rw [map_inits_cons, forall_divided_cons_iff]
      simp only [List.foldl_cons, List.foldl_nil, List.getLastD_cons, List.getLastD_nil]
      rw [← inductionHypothesis next]
      by_cases neighbour : cause <:+ previous
      · rw [newBehind_of_isSuffix neighbour, newBehind_of_isSuffix (neighbour.trans ends)]
        simp [neighbour]
      rw [newBehind_of_not_isSuffix neighbour]
      by_cases quoted : cause <:+ said
      · have shorter := (newBehind_sublist_neighbours next causes).length_le
        rw [newBehind_of_isSuffix quoted]
        simp only [quoted, neighbour, imp_false, not_true_eq_false, false_and, iff_false]
        intro same
        rw [same, List.length_cons] at shorter
        omega
      · rw [newBehind_of_not_isSuffix quoted]
        simp [quoted]

end Compared

/-- Describing goes on from a description as from the causes in it and keeps it in front, also if
there are no further causes. It joins some of the causes in their order, but shows every one, the
last one at its end, and if each ends the one before it, the first one alone. -/
theorem description_keeps_every_cause (first : Text) (causes further : List Text) :
    describe (first :: causes ++ further) =
        describe (describe (first :: causes) :: further) ∧
    describe (first :: causes) <+: describe (first :: causes ++ further) ∧
    (∃ told : List Text, told.Sublist (first :: causes) ∧
      describe (first :: causes) = Text.joinWith causeSeparator told) ∧
    (∀ cause ∈ first :: causes, cause <:+: describe (first :: causes)) ∧
    (first :: causes).getLast (List.cons_ne_nil first causes) <:+ describe (first :: causes) ∧
    describe [describe (first :: causes)] = describe (first :: causes) ∧
    ((first :: causes).IsChain (fun previous cause => cause <:+ previous) →
      describe (first :: causes) = first) := by
  refine ⟨?_, isPrefix_describe_append _ _, ⟨_, toldCauses_sublist _, describe_eq_joinWith _⟩,
    fun cause => isInfix_describe, ?_, describe_cons _ [], ?_⟩
  · rw [describe_append, describe_cons (describe _)]
  · have ends := isSuffix_describe (first :: causes).dropLast
      ((first :: causes).getLast (List.cons_ne_nil first causes))
    rwa [List.dropLast_append_getLast] at ends
  · intro quoted
    rw [describe_cons]
    exact foldl_describeNext_of_isChain List.suffix_rfl quoted

/-- A failure that is quoted twice is described once, whatever else is behind it. -/
theorem quoted_causes_are_described_once :
    ["post: read: gone".toList, "read: gone".toList, "gone".toList].IsChain
      (fun previous cause => cause <:+ previous) ∧
    describe ["post: read: gone".toList, "read: gone".toList, "gone".toList] =
      "post: read: gone".toList := by
  have quoted : ["post: read: gone".toList, "read: gone".toList, "gone".toList].IsChain
      (fun previous cause => cause <:+ previous) := by decide
  obtain ⟨_, _, _, _, _, _, alone⟩ := description_keeps_every_cause "post: read: gone".toList
    ["read: gone".toList, "gone".toList] []
  exact ⟨quoted, alone quoted⟩

/-- Unless the first cause is empty, a description joins it and all causes that the description of
those before them does not end with; each of these is also one that the cause right before it does
not end with. All of those are joined exactly if no cause ends what has been said before it without
ending the last cause before it. -/
theorem description_compares_with_all_before (first : Text) (causes : List Text)
    (nonempty : first ≠ []) :
    describe (first :: causes) = Text.joinWith causeSeparator
        (first :: newBehind (causes.inits.map fun before => describe (first :: before)) causes) ∧
    (newBehind (causes.inits.map fun before => describe (first :: before)) causes).Sublist
      (newBehind (first :: causes) causes) ∧
    (describe (first :: causes) =
        Text.joinWith causeSeparator (first :: newBehind (first :: causes) causes) ↔
      ∀ before cause behind, causes = before ++ cause :: behind →
        cause <:+ describe (first :: before) → cause <:+ before.getLastD first) := by
  simp only [describe_cons]
  have fewer := newBehind_sublist_neighbours (List.suffix_rfl : first <:+ first) causes
  have joined := foldl_describeNext_eq nonempty causes
  refine ⟨by rw [joined, Text.joinWith_cons], fewer, ?_⟩
  rw [← newBehind_eq_neighbours_iff List.suffix_rfl, joined, Text.joinWith_cons,
    List.append_cancel_left_eq]
  constructor
  · intro same
    rcases Text.eq_or_length_flatMap_lt (by decide : causeSeparator ≠ []) fewer with equal | shorter
    · exact equal
    · exact absurd (congrArg List.length same) (Nat.ne_of_lt shorter)
  · intro equal
    rw [equal]

/-- A cause that quotes the two before it as they are joined is left out, although the one right
before it does not end with it. -/
theorem cause_that_quotes_two_is_left_out :
    "a".toList ≠ [] ∧
    describe ["a".toList, "b".toList, "a: b".toList] = "a: b".toList ∧
    describe ["a".toList, "b".toList, "a: b".toList] ≠ Text.joinWith causeSeparator
      ("a".toList :: newBehind ["a".toList, "b".toList, "a: b".toList]
        ["b".toList, "a: b".toList]) := by
  obtain ⟨_, _, asNeighboursSay⟩ := description_compares_with_all_before "a".toList
    ["b".toList, "a: b".toList] (by decide)
  refine ⟨by decide, by decide, fun same => ?_⟩
  have neighbour := asNeighboursSay.mp same ["b".toList] "a: b".toList [] rfl (by decide)
  exact absurd neighbour (by decide)

end UploadProbe
