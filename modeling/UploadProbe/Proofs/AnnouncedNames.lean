import Mathlib
import UploadProbe.Settings
import UploadProbe.Proofs.FramingReading
import UploadProbe.Proofs.Utf8

/-!
# The name that is announced

The last step of a path is looked for from the end of the path, and what stands in front of it is a
step of another kind. Reading the path from its beginning comes to the same: the last step behind
the front is the one that the last segment makes, once the path has been divided at its slashes and
the segments that add nothing are gone. So the announced name depends on this last segment alone.
Neither slashes and dots behind it nor directories in front of it change the name, and the name
never leads anywhere else.
-/

namespace UploadProbe

namespace SamplePath

variable {path : SamplePath} {segment : Bytes}

/-- Whether a segment adds nothing to a path. -/
def AddsNothing (segment : Bytes) : Prop :=
  segment = [] ∨ segment = here

theorem mem_segments_iff :
    segment ∈ path.segments ↔ segment ∈ path.pieces ∧ ¬ AddsNothing segment := by
  simp [segments, AddsNothing]

theorem slash_notMem_of_mem_segments (member : segment ∈ path.segments) : slash ∉ segment :=
  Bytes.notMem_of_mem_splitOn (mem_segments_iff.mp member).1

theorem segments_append_slash (left right : SamplePath) :
    segments (left ++ slash :: right) = segments left ++ segments right := by
  rw [segments, pieces, Bytes.splitOn_append, List.filter_append]
  rfl

theorem segments_of_addsNothing (clear : slash ∉ segment) (addsNothing : AddsNothing segment) :
    segments segment = [] := by
  rw [segments, pieces, Bytes.splitOn_of_notMem clear]
  rcases addsNothing with rfl | rfl <;> rfl

theorem segments_of_adds (clear : slash ∉ segment) (adds : ¬ AddsNothing segment) :
    segments segment = [segment] := by
  rw [AddsNothing, not_or] at adds
  rw [segments, pieces, Bytes.splitOn_of_notMem clear]
  simp [adds]

theorem stepOf?_of_addsNothing (addsNothing : AddsNothing segment) : stepOf? segment = none := by
  rcases addsNothing with rfl | rfl <;> rfl

theorem stepOf?_of_adds (adds : ¬ AddsNothing segment) :
    stepOf? segment = some (if segment = parent then .parent else .name segment) := by
  rw [AddsNothing, not_or] at adds
  rw [stepOf?, if_neg (by simp [adds])]
  split <;> rfl

/-- A segment makes the step of the last segment of itself. -/
theorem stepOf?_eq (clear : slash ∉ segment) :
    stepOf? segment = (segments segment).getLast?.bind stepOf? := by
  by_cases addsNothing : AddsNothing segment
  · rw [segments_of_addsNothing clear addsNothing, stepOf?_of_addsNothing addsNothing]
    rfl
  · rw [segments_of_adds clear addsNothing]
    rfl

/-- Reading octets from their end comes to the step of their last segment. -/
theorem lastStepFrom?_eq (clear : slash ∉ segment) (backwards : Bytes) :
    lastStepFrom? segment backwards =
      (segments (backwards.reverse ++ segment)).getLast?.bind stepOf? := by
  induction backwards generalizing segment with
  | nil => exact stepOf?_eq clear
  | cons b backwards inductionHypothesis =>
      rw [lastStepFrom?, List.reverse_cons, List.append_assoc, List.singleton_append]
      split
      · next isSlash =>
        rw [isSlash, segments_append_slash]
        by_cases addsNothing : AddsNothing segment
        · have further := @inductionHypothesis [] List.not_mem_nil
          rw [stepOf?_of_addsNothing addsNothing, segments_of_addsNothing clear addsNothing,
            List.append_nil]
          rwa [List.append_nil] at further
        · rw [segments_of_adds clear addsNothing, List.getLast?_concat, Option.bind_some,
            stepOf?_of_adds addsNothing]
      · next solid =>
        have stillClear : slash ∉ b :: segment := by
          rw [List.mem_cons, not_or]
          exact ⟨Ne.symm solid, clear⟩
        exact inductionHypothesis stillClear

theorem segments_slash (path : SamplePath) : segments (slash :: path) = segments path :=
  segments_append_slash [] path

/-- What stands in front of a path is none of its segments. -/
theorem segments_front (path : SamplePath) : segments path.front.2 = path.segments := by
  unfold front
  split
  · next absolute =>
    obtain ⟨further, rfl⟩ := List.head?_eq_some_iff.mp (of_decide_eq_true absolute)
    exact (segments_slash further).symm
  split
  · next fromHere =>
    match path, fromHere with
    | [first], fromHere =>
        have isDot : first = 0x2E := by simpa [startsHere] using fromHere
        rw [isDot]
        rfl
    | first :: second :: further, fromHere =>
        have both : first = 0x2E ∧ second = slash := by simpa [startsHere] using fromHere
        rw [both.1, both.2]
        exact (segments_slash further).trans (segments_append_slash here further).symm
  · rfl

theorem front_gives_no_name (path : SamplePath) : path.front.1.bind Step.fileName? = none := by
  unfold front
  split
  · rfl
  split <;> rfl

/-- The name of a path is that of its last segment, unless that leads to the parent. -/
theorem fileName?_eq (path : SamplePath) :
    path.fileName? = path.segments.getLast?.bind fun segment =>
      if segment = parent then none else Utf8.decode? segment := by
  have found : lastStepFrom? [] path.front.2.reverse = path.segments.getLast?.bind stepOf? := by
    rw [lastStepFrom?_eq List.not_mem_nil, List.reverse_reverse, List.append_nil, segments_front]
  rw [fileName?, lastStep?, found]
  cases last : path.segments.getLast? with
  | none => exact front_gives_no_name path
  | some segment =>
      have adds := (mem_segments_iff.mp (List.mem_of_getLast? last)).2
      simp only [Option.bind_some, stepOf?_of_adds adds]
      split <;> rfl

/-- Paths with the same last segment have the same name. -/
theorem fileName?_congr {other : SamplePath}
    (same : path.segments.getLast? = other.segments.getLast?) :
    path.fileName? = other.fileName? := by
  rw [fileName?_eq, fileName?_eq, same]

/-- Slashes and dots behind a path add nothing to it. -/
theorem segments_append_endings (path : SamplePath) {endings : List Bytes}
    (areEndings : ∀ ending ∈ endings, ending = [slash] ∨ ending = slash :: here) :
    segments (path ++ endings.flatten) = path.segments := by
  induction endings generalizing path with
  | nil => rw [List.flatten_nil, List.append_nil]
  | cons ending endings inductionHypothesis =>
      rw [List.forall_mem_cons] at areEndings
      have added : segments (path ++ ending) = path.segments := by
        rcases areEndings.1 with rfl | rfl <;>
          exact (segments_append_slash path _).trans (List.append_nil _)
      rw [List.flatten_cons, ← List.append_assoc, inductionHypothesis _ areEndings.2, added]

/-- Directories in front of a path leave its last segment what it is. -/
theorem getLast?_segments_behind (directory : SamplePath) (nonempty : path.segments ≠ []) :
    (segments (directory ++ slash :: path)).getLast? = path.segments.getLast? := by
  rw [segments_append_slash, List.getLast?_append_of_ne_nil _ nonempty]

/-- By which name the sample of a path is announced: by the last segment of the path, or by the
fallback if there is none, it leads to the parent, or it is no text. -/
inductive Announces (path : SamplePath) : Text → Prop
  | segment {name : Text} (last : path.segments.getLast? = some (Utf8.encode name))
    (notParent : Utf8.encode name ≠ parent) : Announces path name
  | unnamed (none : path.segments = []) : Announces path Settings.fallbackFileName
  | parent (last : path.segments.getLast? = some SamplePath.parent) :
    Announces path Settings.fallbackFileName
  | noText {segment : Bytes} (last : path.segments.getLast? = some segment)
    (noText : ∀ name, Utf8.encode name ≠ segment) : Announces path Settings.fallbackFileName

theorem announces_iff {name : Text} :
    path.Announces name ↔ path.fileName?.getD Settings.fallbackFileName = name := by
  rw [fileName?_eq]
  constructor
  · rintro (⟨last, notParent⟩ | none | last | @⟨segment, last, noText⟩)
    · rw [last, Option.bind_some, if_neg notParent, Utf8.decode?_encode, Option.getD_some]
    · rw [none]
      rfl
    · rw [last]
      rfl
    · rw [last, Option.bind_some]
      split
      · rfl
      · cases read : Utf8.decode? segment with
        | none => rfl
        | some name => exact absurd (Utf8.decode?_eq_some_iff.mp read).symm (noText name)
  · rintro rfl
    cases last : path.segments.getLast? with
    | none => exact .unnamed (List.getLast?_eq_none_iff.mp last)
    | some segment =>
        rw [Option.bind_some]
        split
        · next isParent =>
          rw [isParent] at last
          exact .parent last
        · next notParent =>
          cases read : Utf8.decode? segment with
          | none =>
              refine .noText last fun name isText => ?_
              rw [← isText, Utf8.decode?_encode] at read
              contradiction
          | some name =>
              rw [Utf8.decode?_eq_some_iff.mp read] at last notParent
              exact .segment last notParent

/-- An announced name is a name in a directory, and none of the directory itself or its parent. -/
theorem Announces.isName {name : Text} (announces : path.Announces name) :
    name ≠ [] ∧ name ≠ ".".toList ∧ name ≠ "..".toList ∧ '/' ∉ name := by
  cases announces with
  | segment last notParent =>
      have member := List.mem_of_getLast? last
      have adds := (mem_segments_iff.mp member).2
      refine ⟨?_, ?_, ?_, fun inName => slash_notMem_of_mem_segments member ?_⟩
      · rintro rfl
        exact adds (.inl rfl)
      · rintro rfl
        exact adds (.inr rfl)
      · rintro rfl
        exact notParent rfl
      · exact List.mem_flatMap.mpr ⟨'/', inName, by decide⟩
  | unnamed | parent | noText => decide

end SamplePath

/-- The name that is announced with a sample is read off the segments of its path. It is a name in a
directory, it stays the same whatever slashes and dots are put behind the path, and in whatever
directory the path is put, if it has a segment at all. -/
theorem announced_name_is_last_segment (settings : Settings) :
    (∀ name, settings.uploadFileName = name ↔ settings.file.Announces name) ∧
    (settings.uploadFileName ≠ [] ∧ settings.uploadFileName ≠ ".".toList ∧
      settings.uploadFileName ≠ "..".toList ∧ '/' ∉ settings.uploadFileName) ∧
    (∀ endings : List Bytes,
      (∀ ending ∈ endings, ending = [SamplePath.slash] ∨
        ending = SamplePath.slash :: SamplePath.here) →
      { settings with file := settings.file ++ endings.flatten }.uploadFileName =
        settings.uploadFileName) ∧
    (settings.file.segments ≠ [] → ∀ directory : SamplePath,
      { settings with file := directory ++ SamplePath.slash :: settings.file }.uploadFileName =
        settings.uploadFileName) := by
  refine ⟨fun name => SamplePath.announces_iff.symm,
    (SamplePath.announces_iff.mpr rfl).isName, ?_, ?_⟩
  · intro endings areEndings
    have same := SamplePath.segments_append_endings settings.file areEndings
    rw [Settings.uploadFileName, SamplePath.fileName?_congr (congrArg List.getLast? same)]
    rfl
  · intro nonempty directory
    have same := SamplePath.getLast?_segments_behind directory nonempty
    rw [Settings.uploadFileName, SamplePath.fileName?_congr same]
    rfl

/-- Only the last segment counts: behind the directory `up/`, the path `./../a` with `//.` behind it
is still announced as `a`. -/
theorem announced_name_behind_directory :
    (∀ ending ∈ [[SamplePath.slash], SamplePath.slash :: SamplePath.here],
      ending = [SamplePath.slash] ∨ ending = SamplePath.slash :: SamplePath.here) ∧
    SamplePath.segments (Bytes.ofAscii "./../a//.".toList) ≠ [] ∧
    ({ file := Bytes.ofAscii "up//./../a//.".toList } : Settings).uploadFileName = "a".toList := by
  obtain ⟨named, _, behind, _⟩ :=
    announced_name_is_last_segment { file := Bytes.ofAscii "./../a".toList }
  obtain ⟨_, _, _, within⟩ :=
    announced_name_is_last_segment { file := Bytes.ofAscii "./../a//.".toList }
  have areEndings : ∀ ending ∈ [[SamplePath.slash], SamplePath.slash :: SamplePath.here],
      ending = [SamplePath.slash] ∨ ending = SamplePath.slash :: SamplePath.here := by decide
  have nonempty : SamplePath.segments (Bytes.ofAscii "./../a//.".toList) ≠ [] := by decide
  have isNamed : SamplePath.Announces (Bytes.ofAscii "./../a".toList) "a".toList :=
    .segment (by decide) (by decide)
  refine ⟨areEndings, nonempty, ?_⟩
  exact (within nonempty (Bytes.ofAscii "up/".toList)).trans
    ((behind _ areEndings).trans ((named _).mpr isNamed))

end UploadProbe
