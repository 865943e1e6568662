import Mathlib
import UploadProbe.Proofs.WinningValues

/-!
# The command lines that are accepted

Settings are read only from arguments that are spelled in full: each is a flag with its value,
behind an equals sign or apart, and nothing but two dashes alone may stand behind them. Each setting
is given once at most and has the value that is given. A second value for a setting is refused,
whatever the first one is and wherever it stands.
-/

namespace UploadProbe

namespace CommandLine

theorem cutAtEquals_eq (raw : Bytes) :
    raw = (cutAtEquals raw).1 ++ (cutAtEquals raw).2.elim [] (equals :: ·) := by
  induction raw with
  | nil => rfl
  | cons b rest inductionHypothesis =>
      rw [cutAtEquals]
      split
      next isEquals => rw [isEquals]; rfl
      next => exact congrArg (b :: ·) inductionHypothesis

/-- Two dashes alone, behind which no argument is a flag. -/
def doubleDash : Bytes := [dash, dash]

/-- How the arguments that are taken for something are written. -/
def Token.IsWritten : Token → Bytes → Prop
  | .separator, raw => raw = doubleDash
  | .long name attached, raw => raw = doubleDash ++ name ++ attached.elim [] (equals :: ·)
  | .short cluster, raw => raw = dash :: cluster
  | .plain value, raw => raw = value ∧ (value.head? = some dash → value = [dash])

theorem Token.ofBytes_isWritten (raw : Bytes) : (Token.ofBytes raw).IsWritten raw := by
  rcases raw with _ | ⟨first, _ | ⟨second, rest⟩⟩
  · exact ⟨rfl, by simp⟩
  · exact ⟨rfl, by simp⟩
  rw [ofBytes]
  split
  next isDash =>
    split
    next isSecond =>
      split
      next isEmpty =>
        rw [List.isEmpty_iff] at isEmpty
        rw [IsWritten, isDash, isSecond, isEmpty, doubleDash]
      next =>
        rw [IsWritten, isDash, isSecond, List.append_assoc, ← cutAtEquals_eq]
        rfl
    next => rw [IsWritten, isDash]
  next noDash =>
    refine ⟨rfl, fun begins => absurd ?_ noDash⟩
    exact Option.some.inj begins

/-- A name is a flag's only if it is spelled in full. -/
theorem eq_name_of_ofName? {name : Bytes} {setting : Setting}
    (isFlag : (Utf8.decode? name).bind Flag.ofName? = some (.setting setting)) :
    name = Bytes.ofAscii setting.name := by
  obtain ⟨text, decoded, found⟩ := Option.bind_eq_some_iff.mp isFlag
  rw [Flag.ofName?] at found
  have isName := List.find?_some found
  change decide (setting.name = text) = true at isName
  rw [decide_eq_true_eq] at isName
  rw [Utf8.decode?_eq_some_iff.mp decoded, ← isName]
  cases setting <;> decide

theorem eq_flag_of_long {raw name : Bytes} {attached : Option Bytes} {setting : Setting}
    (isToken : Token.ofBytes raw = .long name attached)
    (isFlag : (Utf8.decode? name).bind Flag.ofName? = some (.setting setting)) :
    raw = flag setting ++ attached.elim [] (equals :: ·) := by
  have written := Token.ofBytes_isWritten raw
  have isDashed : doubleDash ++ Bytes.ofAscii setting.name = flag setting := by
    cases setting <;> decide
  rw [isToken, Token.IsWritten, eq_name_of_ofName? isFlag, isDashed] at written
  exact written

/-- Whether arguments are a list of flags with their values, perhaps with two dashes alone behind
them. -/
def AreFlags (givens : List Given) (arguments : List Bytes) : Prop :=
  arguments = givens.flatMap Given.arguments ∨
    arguments = givens.flatMap Given.arguments ++ [doubleDash]

theorem AreFlags.cons {givens : List Given} {arguments : List Bytes}
    (areFlags : AreFlags givens arguments) (given : Given) :
    AreFlags (given :: givens) (given.arguments ++ arguments) := by
  rcases areFlags with rfl | rfl
  · exact .inl rfl
  · exact .inr (List.append_assoc ..).symm

/-- What the arguments are that can follow a state: a value first where a flag waits for one. -/
def AreBehind : Option (Setting × Option Bytes) → List Bytes → Prop
  | some (_, none), arguments => ∃ value behind, arguments = value :: behind ∧
      (value.head? = some dash → value = [dash]) ∧ ∃ givens, AreFlags givens behind
  | _, arguments => ∃ givens, AreFlags givens arguments

theorem AreBehind.of_whole {progress : Progress} (whole : progress.IsWhole) {arguments : List Bytes}
    (areBehind : AreBehind progress.pending arguments) : ∃ givens, AreFlags givens arguments := by
  rw [AreBehind.eq_def] at areBehind
  split at areBehind
  next pending => exact absurd pending (whole _)
  next => exact areBehind

theorem isWhole_of_resolve {progress next : Progress} (resolved : progress.resolve = .ok next) :
    progress.IsWhole := by
  intro setting waits
  rw [Progress.resolve, waits] at resolved
  contradiction

theorem areBehind_of_flags {progress : Progress} (whole : progress.IsWhole) {givens : List Given}
    {arguments : List Bytes} (areFlags : AreFlags givens arguments) :
    AreBehind progress.pending arguments := by
  rw [AreBehind.eq_def]
  split
  next pending => exact absurd pending (whole _)
  next => exact ⟨givens, areFlags⟩

/-- Arguments that come through are flags with their values. The induction is on the arguments, and
a flag that waits for its value carries it over to the next one. -/
theorem areBehind_of_readFrom {arguments : List Bytes} {progress final : Progress}
    (isRead : readFrom progress arguments = .ok final) : AreBehind progress.pending arguments := by
  induction arguments generalizing progress with
  | nil => exact areBehind_of_flags (isWhole_of_resolve isRead) (.inl (List.flatMap_nil).symm)
  | cons raw rest inductionHypothesis =>
      have written := Token.ofBytes_isWritten raw
      rw [readFrom] at isRead
      split at isRead
      next isToken =>
        rw [isToken, Token.IsWritten] at written
        cases rest with
        | nil =>
            rw [readAfterSeparator] at isRead
            exact areBehind_of_flags (isWhole_of_resolve isRead)
              (.inr (show [raw] = [].flatMap Given.arguments ++ [doubleDash] by rw [written]; rfl))
        | cons => contradiction
      next => contradiction
      next value isToken =>
        rw [isToken, Token.IsWritten] at written
        split at isRead
        next setting pending =>
          rw [pending]
          exact ⟨value, rest, by rw [written.1], written.2, inductionHypothesis isRead⟩
        next => contradiction
      next name attached isToken =>
        split at isRead
        · contradiction
        · split at isRead
          · contradiction
          · split at isRead <;> contradiction
        next setting isFlag =>
          have isFlag := eq_flag_of_long isToken isFlag
          split at isRead
          · contradiction
          next next resolved =>
            have whole := isWhole_of_resolve resolved
            split at isRead
            next value =>
              split at isRead
              next after assigned =>
                have waits : after.IsWhole := Progress.isWhole_of_pending
                  ((Progress.assign_pending assigned).trans (Progress.resolve_pending resolved))
                obtain ⟨givens, areFlags⟩ := (inductionHypothesis isRead).of_whole waits
                rw [isFlag]
                exact areBehind_of_flags whole
                  (areFlags.cons ⟨setting, value, false, fun impossible => by contradiction⟩)
              next => contradiction
            next =>
              obtain ⟨value, behind, rfl, noFlag, givens, areFlags⟩ := inductionHypothesis isRead
              rw [isFlag, Option.elim_none, List.append_nil]
              exact areBehind_of_flags whole (areFlags.cons ⟨setting, value, true, fun _ => noFlag⟩)

/-- Two dashes alone behind the last argument change nothing. -/
theorem readFrom_doubleDash (givens : List Given) (progress : Progress) :
    readFrom progress (givens.flatMap Given.arguments ++ [doubleDash]) =
      readFrom progress (givens.flatMap Given.arguments) := by
  induction givens generalizing progress with
  | nil => rfl
  | cons given givens inductionHypothesis =>
      rw [List.flatMap_cons, List.append_assoc, Given.arguments]
      by_cases apart : given.isApart = true
      · simp only [if_pos apart, List.cons_append, List.nil_append,
          readFrom_apart _ _ (given.noFlag apart), inductionHypothesis]
      · simp only [if_neg apart, List.cons_append, List.nil_append, readFrom_attached,
          inductionHypothesis]

theorem AreFlags.read_eq {givens : List Given} {arguments : List Bytes}
    (areFlags : AreFlags givens arguments) (environment : Environment) :
    read arguments environment = read (givens.flatMap Given.arguments) environment := by
  rcases areFlags with rfl | rfl
  · rfl
  · rw [read, readFrom_doubleDash, read]

/-- Of values that repeat a setting, one is the first to do so. -/
theorem exists_first_repeated {givens : List Given} (repeats : ¬(givens.map Given.setting).Nodup) :
    ∃ before given behind, givens = before ++ given :: behind ∧
      (before.map Given.setting).Nodup ∧ given.setting ∈ before.map Given.setting := by
  induction givens using List.reverseRecOn with
  | nil => exact absurd List.nodup_nil repeats
  | append_singleton givens last inductionHypothesis =>
      by_cases once : (givens.map Given.setting).Nodup
      · refine ⟨givens, last, [], rfl, once, ?_⟩
        by_contra fresh
        refine repeats ?_
        rw [List.map_append, List.map_singleton, ← List.concat_eq_append]
        exact once.concat fresh
      · obtain ⟨before, given, behind, rfl, distinct, again⟩ := inductionHypothesis once
        exact ⟨before, given, behind ++ [last], by simp, distinct, again⟩

/-- A setting that has its value is not given another one: assignments stop there, if they get
there. -/
theorem assignAll_repeated {before : List Given} {given : Given} (behind : List Given)
    (once : (before.map Given.setting).Nodup) (again : given.setting ∈ before.map Given.setting) :
    ∃ stop, assignAll {} ((before ++ given :: behind).map Given.pair) = .error stop ∧
      ((∀ earlier ∈ before, earlier.setting.Accepts earlier.value) →
        stop = .repeated given.setting) := by
  have distinct : ((before.map Given.pair).map Prod.fst).Nodup := by
    rw [List.map_map]
    exact once
  rw [List.map_append, assignAll_append]
  rcases Progress.follows_nothing.assignAll_cases distinct (fun _ _ => rfl) with
    ⟨next, assigned, -, isGiven, -⟩ | ⟨⟨stop, stopped⟩, setting, raw, found, refused⟩
  · have member : given.setting ∈ next.given := by
      rw [isGiven, List.map_map]
      exact List.mem_append_right _ again
    refine ⟨.repeated given.setting, ?_, fun _ => rfl⟩
    rw [assigned, List.map_cons, Given.pair]
    dsimp only
    rw [assignAll, Progress.assign, if_pos member]
  · refine ⟨stop, by rw [stopped], fun accepted => ?_⟩
    rw [lookup_eq_some_iff_mem distinct, List.mem_map] at found
    obtain ⟨earlier, member, same⟩ := found
    cases same
    exact absurd (accepted earlier member) refused

theorem AreFlags.read_repeated {before behind : List Given} {given : Given} {arguments : List Bytes}
    (areFlags : AreFlags (before ++ given :: behind) arguments)
    (once : (before.map Given.setting).Nodup) (again : given.setting ∈ before.map Given.setting)
    (environment : Environment) :
    ∃ stop, read arguments environment = .error stop ∧
      ((∀ earlier ∈ before, earlier.setting.Accepts earlier.value) →
        stop = .repeated given.setting) := by
  have start : ({} : Progress).resolve = .ok {} := rfl
  obtain ⟨stop, stopped, isRepeated⟩ := assignAll_repeated behind once again
  refine ⟨stop, ?_, isRepeated⟩
  rw [areFlags.read_eq, read, readFrom_arguments _ (Progress.isWhole_of_pending rfl), start]
  dsimp only
  rw [stopped]

/-- Settings are read only from flags that give every setting one value at most. -/
theorem exists_assignment {arguments : List Bytes} {environment : Environment} {settings : Settings}
    (isRead : read arguments environment = .ok settings) :
    ∃ assignment : Assignment, AreFlags assignment.givens arguments := by
  obtain ⟨final, through⟩ : ∃ final, readFrom {} arguments = .ok final := by
    cases through : readFrom {} arguments with
    | ok final => exact ⟨final, rfl⟩
    | error stop =>
        rw [read, through] at isRead
        contradiction
  obtain ⟨givens, areFlags⟩ :=
    (areBehind_of_readFrom through).of_whole (Progress.isWhole_of_pending rfl)
  by_cases once : (givens.map Given.setting).Nodup
  · exact ⟨⟨givens, once⟩, areFlags⟩
  · obtain ⟨before, given, behind, rfl, distinct, again⟩ := exists_first_repeated once
    obtain ⟨stop, stopped, -⟩ := areFlags.read_repeated distinct again environment
    rw [stopped] at isRead
    contradiction

/-- Settings are read exactly from flags that give every setting one value at most, perhaps with two
dashes alone behind them, and every value is that of its setting in the result. Every other list of
arguments is refused. Flags that give a setting a second value are refused for that, at the first
value that repeats a setting, if the values in front of it are good. -/
theorem nothing_given_is_overridden (arguments : List Bytes) (environment : Environment) :
    (∀ settings, read arguments environment = .ok settings ↔
      ∃ assignment : Assignment, AreFlags assignment.givens arguments ∧
        (∀ given ∈ assignment.givens, settings.Holds given.setting (some given.value)) ∧
        ∀ setting, settings.Holds setting (assignment.winning environment setting)) ∧
    ((∀ assignment : Assignment, ¬AreFlags assignment.givens arguments) →
      ∃ stop, read arguments environment = .error stop) ∧
    ∀ givens, AreFlags givens arguments → ¬(givens.map Given.setting).Nodup →
      (∀ given ∈ givens, given.setting.Accepts given.value) →
      ∃ before given behind, givens = before ++ given :: behind ∧
        (before.map Given.setting).Nodup ∧ given.setting ∈ before.map Given.setting ∧
        read arguments environment = .error (.repeated given.setting) := by
  refine ⟨fun settings => ⟨fun isRead => ?_, ?_⟩, fun noFlags => ?_, ?_⟩
  · obtain ⟨assignment, areFlags⟩ := exists_assignment isRead
    rw [areFlags.read_eq] at isRead
    have holds := (Assignment.read_eq_ok_iff settings).mp isRead
    refine ⟨assignment, areFlags, fun given member => ?_, holds⟩
    have found : assignment.given? given.setting = some given.value :=
      (lookup_eq_some_iff_mem Assignment.distinct_givens).mpr (List.mem_map_of_mem member)
    have own := holds given.setting
    rw [Assignment.winning, found] at own
    exact own
  · rintro ⟨assignment, areFlags, -, holds⟩
    rw [areFlags.read_eq]
    exact (Assignment.read_eq_ok_iff settings).mpr holds
  · cases isRead : read arguments environment with
    | error stop => exact ⟨stop, rfl⟩
    | ok settings =>
        obtain ⟨assignment, areFlags⟩ := exists_assignment isRead
        exact absurd areFlags (noFlags assignment)
  · intro givens areFlags repeats accepted
    obtain ⟨before, given, behind, rfl, once, again⟩ := exists_first_repeated repeats
    obtain ⟨stop, stopped, isRepeated⟩ := areFlags.read_repeated once again environment
    refine ⟨before, given, behind, rfl, once, again, ?_⟩
    rw [stopped, isRepeated fun earlier member => accepted earlier (List.mem_append_left _ member)]

theorem Given.arguments_eq (given : Given) :
    ∃ behind more, given.arguments = (dash :: behind) :: more := by
  rw [arguments]
  split <;> cases given.setting <;> exact ⟨_, _, rfl⟩

theorem AreFlags.begins {givens : List Given} {raw : Bytes} {rest : List Bytes}
    (areFlags : AreFlags givens (raw :: rest)) : raw.head? = some dash := by
  cases givens with
  | nil =>
      rcases areFlags with same | same
      · contradiction
      · rw [(List.cons.inj same).1]
        rfl
  | cons given givens =>
      obtain ⟨behind, more, isGiven⟩ := given.arguments_eq
      rw [AreFlags, List.flatMap_cons, isGiven] at areFlags
      rcases areFlags with same | same <;>
      · rw [(List.cons.inj same).1]
        rfl

/-- A dash as a value of its own and two dashes at the end are taken, an argument that is no flag is
not, and a field that is given twice is refused for that, even where no variable can be read. -/
theorem second_field_is_refused :
    let dashed : Given := ⟨.field, [dash], true, fun _ _ => rfl⟩
    let empty : Given := ⟨.field, [], false, fun impossible => by contradiction⟩
    let unreadable : Environment := fun _ => some [0xFF]
    read (dashed.arguments ++ [doubleDash]) (fun _ => none) = .ok { field := ['-'] } ∧
      (∃ stop, read [[0x78]] unreadable = .error stop) ∧
      read (dashed.arguments ++ empty.arguments) unreadable = .error (.repeated .field) := by
  intro dashed empty unreadable
  refine ⟨?_, ?_, ?_⟩
  · have once : ([dashed].map Given.setting).Nodup := by decide
    refine ((nothing_given_is_overridden _ _).1 _).mpr ⟨⟨[dashed], once⟩, .inr rfl, ?_, ?_⟩
    · intro given member
      rw [List.mem_singleton.mp member]
      rfl
    · intro setting
      cases setting <;> rfl
  · refine (nothing_given_is_overridden _ unreadable).2.1 fun assignment areFlags => ?_
    exact absurd areFlags.begins (by decide)
  · have accepted : ∀ given ∈ [dashed, empty], given.setting.Accepts given.value := by
      intro given member
      rcases List.mem_pair.mp member with rfl | rfl
      · exact ⟨['-'], by decide⟩
      · exact ⟨[], rfl⟩
    obtain ⟨before, given, behind, same, -, -, refused⟩ :=
      (nothing_given_is_overridden (dashed.arguments ++ empty.arguments) unreadable).2.2
        [dashed, empty] (.inl rfl) (by decide) accepted
    have isField : given.setting = .field := by
      have member : given ∈ [dashed, empty] := by simp [same]
      rcases List.mem_pair.mp member with rfl | rfl <;> rfl
    rw [refused, isField]

end CommandLine

end UploadProbe
