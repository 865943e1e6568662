import Mathlib
import UploadProbe.Proofs.AssignedSettings

/-!
# The values that win

Of the values that a setting is given, the one on the command line wins over the one in the
environment, and without any of them the default stays. The settings that are read are exactly what
the winning values make of them, in whatever order and spelling the flags stand, and only a winning
value can be refused. So settings that are written out as flags are read back under every
environment.
-/

namespace UploadProbe

/-- Every setting has a variable of its own, so that any values can be given to the settings by the
variables of a process. -/
theorem Environment.ofVariables_surjective : Function.Surjective Environment.ofVariables := by
  intro environment
  refine ⟨fun name => (Setting.all.find? (·.variableName = name)).bind environment,
    funext fun setting => ?_⟩
  have found : Setting.all.find? (·.variableName = setting.variableName) = some setting := by
    cases setting <;> decide
  rw [Environment.ofVariables, found, Option.bind_some]

namespace CommandLine

theorem lookup_eq_some_iff_mem {pairs : List (Setting × Bytes)}
    (distinct : (pairs.map Prod.fst).Nodup) {setting : Setting} {raw : Bytes} :
    pairs.lookup setting = some raw ↔ (setting, raw) ∈ pairs := by
  induction pairs with
  | nil => simp
  | cons pair pairs inductionHypothesis =>
      rcases pair with ⟨key, value⟩
      rw [List.map_cons, List.nodup_cons] at distinct
      rw [List.lookup_cons, List.mem_cons]
      by_cases first : setting = key
      · subst key
        have notLater : (setting, raw) ∉ pairs := fun member =>
          distinct.1 (List.mem_map.mpr ⟨_, member, rfl⟩)
        simp [notLater, eq_comm]
      · have notFirst : (setting == key) = false := by simpa using first
        simp [notFirst, first, inductionHypothesis distinct.2]

/-- A command line that gives every setting one value at most. -/
structure Assignment where
  givens : List Given
  once : (givens.map Given.setting).Nodup

namespace Assignment

variable (assignment : Assignment) (environment : Environment)

def arguments : List Bytes :=
  assignment.givens.flatMap Given.arguments

/-- The value that the command line gives a setting. -/
def given? (setting : Setting) : Option Bytes :=
  (assignment.givens.map Given.pair).lookup setting

/-- The value that counts for a setting, if there is one: that of the command line, or else that of
the environment. -/
def winning (setting : Setting) : Option Bytes :=
  (assignment.given? setting).or (environment setting)

/-- All assignments that are made. -/
def pairs : List (Setting × Bytes) :=
  assignment.givens.map Given.pair ++
    environmentPairs environment (assignment.givens.map Given.setting) Setting.all

variable {assignment environment}

theorem map_fst_givens :
    (assignment.givens.map Given.pair).map Prod.fst = assignment.givens.map Given.setting := by
  rw [List.map_map]
  rfl

theorem distinct_givens : ((assignment.givens.map Given.pair).map Prod.fst).Nodup := by
  rw [map_fst_givens]
  exact assignment.once

theorem distinct_environmentPairs (given : List Setting) :
    ((environmentPairs environment given Setting.all).map Prod.fst).Nodup := by
  rw [environmentPairs, List.map_filterMap]
  refine List.Nodup.filterMap ?_ (by decide)
  have own : ∀ setting target,
      target ∈ (if setting ∈ given then none
        else (environment setting).map fun raw => (setting, raw)).map Prod.fst →
      target = setting := by
    intro setting target made
    rw [Option.mem_def, Option.map_eq_some_iff] at made
    rcases made with ⟨⟨key, raw⟩, made, rfl⟩
    split at made
    · contradiction
    · rw [Option.map_eq_some_iff] at made
      rcases made with ⟨raw, -, same⟩
      exact (congrArg Prod.fst same).symm
  intro left right target fromLeft fromRight
  exact (own left target fromLeft).symm.trans (own right target fromRight)

theorem distinct_pairs : ((assignment.pairs environment).map Prod.fst).Nodup := by
  rw [pairs, List.map_append, List.nodup_append]
  refine ⟨distinct_givens, distinct_environmentPairs _, ?_⟩
  rintro setting isGiven other fromEnvironment rfl
  rw [map_fst_givens] at isGiven
  rw [List.mem_map] at fromEnvironment
  rcases fromEnvironment with ⟨⟨other, raw⟩, member, rfl⟩
  exact (mem_environmentPairs.mp member).2.1 isGiven

theorem given?_eq_none_iff {setting : Setting} :
    assignment.given? setting = none ↔ setting ∉ assignment.givens.map Given.setting := by
  constructor
  · intro nothing member
    rcases List.mem_map.mp member with ⟨given, among, rfl⟩
    have found : assignment.given? given.setting = some given.value :=
      (lookup_eq_some_iff_mem distinct_givens).mpr (List.mem_map_of_mem among)
    rw [nothing] at found
    contradiction
  · intro absent
    rw [Option.eq_none_iff_forall_ne_some]
    intro raw found
    have among := (lookup_eq_some_iff_mem distinct_givens).mp found
    rcases List.mem_map.mp among with ⟨given, member, same⟩
    exact absent (List.mem_map.mpr ⟨given, member, congrArg Prod.fst same⟩)

/-- Among all assignments that are made, a setting has the value that wins. -/
theorem lookup_pairs (setting : Setting) :
    (assignment.pairs environment).lookup setting = assignment.winning environment setting := by
  rw [pairs, List.lookup_append, ← given?, winning]
  cases isGiven : assignment.given? setting with
  | some raw => rfl
  | none =>
      have notGiven := given?_eq_none_iff.mp isGiven
      have isListed : setting ∈ Setting.all := by cases setting <;> decide
      ext raw
      rw [Option.none_or, Option.none_or,
        lookup_eq_some_iff_mem (distinct_environmentPairs _), mem_environmentPairs]
      simp [isListed, notGiven]

/-- Reading a command line and an environment is the series of all assignments. -/
theorem read_arguments :
    read assignment.arguments environment =
      match assignAll {} (assignment.pairs environment) with
      | .ok progress => .ok progress.settings
      | .error stop => .error stop := by
  have start : ({} : Progress).resolve = .ok {} := rfl
  have noneFree : ∀ setting ∈ (assignment.givens.map Given.pair).map Prod.fst,
      (fun _ => none : Setting → Option Bytes) setting = none := fun _ _ => rfl
  rw [read, arguments, readFrom_arguments _ (Progress.isWhole_of_pending rfl), start, pairs,
    assignAll_append]
  dsimp only
  rcases Progress.follows_nothing.assignAll_cases distinct_givens noneFree with
    ⟨next, assigned, -, given, -⟩ | ⟨⟨stop, stopped⟩, -⟩
  · have sameGiven : next.given = assignment.givens.map Given.setting := by
      rw [given, map_fst_givens]
      rfl
    rw [assigned]
    dsimp only
    rw [fillFrom_eq environment next (by decide), sameGiven]
    cases assignAll next _ <;> rfl
  · rw [stopped]

/-- Either every winning value is one for its setting and the settings that are read are what the
winning values make of them, or nothing is read. -/
theorem read_cases (assignment : Assignment) (environment : Environment) :
    (∃ settings, read assignment.arguments environment = .ok settings ∧
        ∀ setting, settings.Holds setting (assignment.winning environment setting)) ∨
      ((∃ stop, read assignment.arguments environment = .error stop) ∧
        ∃ setting raw, assignment.winning environment setting = some raw ∧
          ¬setting.Accepts raw) := by
  rw [read_arguments]
  have distinct : ((assignment.pairs environment).map Prod.fst).Nodup := distinct_pairs
  rcases Progress.follows_nothing.assignAll_cases distinct (fun _ _ => rfl) with
    ⟨next, assigned, -, -, follows⟩ | ⟨⟨stop, stopped⟩, setting, raw, found, refused⟩
  · refine Or.inl ⟨next.settings, by rw [assigned], fun setting => ?_⟩
    have holds : next.settings.Holds setting
        (((assignment.pairs environment).lookup setting).or none) := (follows setting).1
    rw [lookup_pairs, Option.or_none] at holds
    exact holds
  · exact Or.inr ⟨⟨stop, by rw [stopped]⟩, setting, raw, (lookup_pairs setting).symm.trans found,
      refused⟩

theorem read_eq_ok_iff (settings : Settings) :
    read assignment.arguments environment = .ok settings ↔
      ∀ setting, settings.Holds setting (assignment.winning environment setting) := by
  rcases read_cases assignment environment with
    ⟨found, isRead, holds⟩ | ⟨⟨stop, stopped⟩, setting, raw, wins, refused⟩
  · rw [isRead, Except.ok.injEq]
    constructor
    · rintro rfl
      exact holds
    · intro alsoHolds
      exact Settings.eq_of_agreeOn fun setting => (holds setting).agreeOn (alsoHolds setting)
  · rw [stopped]
    constructor
    · intro impossible
      contradiction
    · intro holds
      have winner := holds setting
      rw [wins] at winner
      exact absurd winner.accepts refused

theorem exists_read_iff :
    (∃ settings, read assignment.arguments environment = .ok settings) ↔
      ∀ setting raw, assignment.winning environment setting = some raw → setting.Accepts raw := by
  rcases read_cases assignment environment with
    ⟨found, isRead, holds⟩ | ⟨⟨stop, stopped⟩, setting, raw, wins, refused⟩
  · refine iff_of_true ⟨found, isRead⟩ fun setting raw wins => ?_
    have winner := holds setting
    rw [wins] at winner
    exact winner.accepts
  · refine iff_of_false ?_ fun accepts => refused (accepts setting raw wins)
    rintro ⟨settings, isRead⟩
    rw [stopped] at isRead
    contradiction

/-- What the environment says about a setting that the command line gives is not looked at. -/
theorem read_eq_of_shadowed {other : Environment}
    (same : ∀ setting, assignment.given? setting = none → other setting = environment setting) :
    read assignment.arguments other = read assignment.arguments environment := by
  have samePairs : assignment.pairs other = assignment.pairs environment := by
    rw [pairs, pairs, environmentPairs, environmentPairs]
    congr 1
    refine List.filterMap_congr fun setting _ => ?_
    by_cases isGiven : setting ∈ assignment.givens.map Given.setting
    · rw [if_pos isGiven, if_pos isGiven]
    · rw [if_neg isGiven, if_neg isGiven, same setting (given?_eq_none_iff.mpr isGiven)]
  rw [read_arguments, read_arguments, samePairs]

end Assignment

end CommandLine

namespace Settings

/-- The settings as the values of flags, with a timeout of whole seconds. -/
def written (settings : Settings) (seconds : Nat) : Setting → Bytes
  | .url => Utf8.encode settings.url
  | .file => settings.file
  | .field => Utf8.encode settings.field
  | .mime => Utf8.encode settings.mime
  | .timeout => Utf8.encode (Text.ofNat seconds)

theorem holds_written {settings : Settings} {seconds : Nat} (named : settings.file ≠ [])
    (small : seconds ≤ Binary64.greatestWhole)
    (timed : settings.timeout = some (.ofWholeSeconds seconds)) (setting : Setting) :
    settings.Holds setting (some (settings.written seconds setting)) := by
  cases setting with
  | file => exact ⟨named, rfl⟩
  | timeout =>
      exact ⟨Text.ofNat seconds, .ofWholeSeconds seconds, Utf8.decode?_encode _,
        Duration.read_ofNat small, timed⟩
  | url => exact Utf8.decode?_encode _
  | field => exact Utf8.decode?_encode _
  | mime => exact Utf8.decode?_encode _

end Settings

namespace CommandLine

/-- Settings as one argument each, in some order. -/
def Assignment.ofSettings (settings : Settings) (seconds : Nat) (order : List Setting)
    (once : order.Nodup) : Assignment where
  givens := order.map fun setting =>
    ⟨setting, settings.written seconds setting, false, fun impossible => by contradiction⟩
  once := by
    rw [List.map_map]
    exact (List.map_id order).symm ▸ once

/-- On a command line that gives every setting one value at most, in any order and either spelling,
the value of a flag wins over that of the variable with the name of its setting, and this over the
default. Settings are read exactly if every winning value is one for its setting, and they are what
the winning values make of them. A variable is not looked at where a flag gives the value, nor is
any that no setting names, and what is read of one setting depends on nothing but its own winning
value. Hence settings with a file and a timeout of whole seconds come back from the five arguments
that write them, whatever the variables are. -/
theorem winning_values_are_read (assignment : Assignment) (valueOf : Text → Option Bytes) :
    let environment := Environment.ofVariables valueOf
    (∀ settings, read assignment.arguments environment = .ok settings ↔
      ∀ setting, settings.Holds setting (assignment.winning environment setting)) ∧
    ((∃ settings, read assignment.arguments environment = .ok settings) ↔
      ∀ setting raw, assignment.winning environment setting = some raw → setting.Accepts raw) ∧
    (∀ otherValueOf : Text → Option Bytes,
      let otherEnvironment := Environment.ofVariables otherValueOf
      (∀ setting, assignment.given? setting = none →
        otherValueOf setting.variableName = valueOf setting.variableName) →
      read assignment.arguments otherEnvironment = read assignment.arguments environment) ∧
    (∀ (other : Assignment) (otherValueOf : Text → Option Bytes),
      let otherEnvironment := Environment.ofVariables otherValueOf
      ∀ settings otherSettings : Settings,
      read assignment.arguments environment = .ok settings →
      read other.arguments otherEnvironment = .ok otherSettings →
      ∀ setting, other.winning otherEnvironment setting = assignment.winning environment setting →
        otherSettings.AgreeOn settings setting) ∧
    ∀ (settings : Settings) (seconds : Nat) (order : List Setting), settings.file ≠ [] →
      seconds ≤ 2 ^ 53 → settings.timeout = some (.ofWholeSeconds seconds) →
      order.Perm Setting.all →
      read (order.map fun setting => flag setting ++ equals :: settings.written seconds setting)
        environment = .ok settings := by
  intro environment
  refine ⟨Assignment.read_eq_ok_iff, Assignment.exists_read_iff, ?_, ?_, ?_⟩
  · intro otherValueOf otherEnvironment same
    exact Assignment.read_eq_of_shadowed same
  · intro other otherValueOf otherEnvironment settings otherSettings isRead otherIsRead setting same
    have holds := (Assignment.read_eq_ok_iff settings).mp isRead setting
    have otherHolds := (Assignment.read_eq_ok_iff otherSettings).mp otherIsRead setting
    rw [same] at otherHolds
    exact otherHolds.agreeOn holds
  · intro settings seconds order named small timed isOrder
    have once : order.Nodup := isOrder.nodup_iff.mpr (by decide)
    let written := Assignment.ofSettings settings seconds order once
    have arguments : written.arguments =
        order.map fun setting => flag setting ++ equals :: settings.written seconds setting := by
      simp only [written, Assignment.arguments, Assignment.ofSettings, Given.arguments,
        List.flatMap_map, Bool.false_eq_true, if_false]
      exact List.map_eq_flatMap.symm
    have wins : ∀ setting, written.winning environment setting =
        some (settings.written seconds setting) := by
      intro setting
      have given : written.given? setting = some (settings.written seconds setting) := by
        have listed : setting ∈ order := isOrder.mem_iff.mpr (by cases setting <;> decide)
        rw [Assignment.given?, lookup_eq_some_iff_mem Assignment.distinct_givens, List.mem_map]
        exact ⟨_, List.mem_map_of_mem listed, rfl⟩
      rw [Assignment.winning, given]
      rfl
    rw [← arguments, Assignment.read_eq_ok_iff]
    intro setting
    rw [wins]
    exact Settings.holds_written named small timed setting

/-- A variable that is not text does no harm to a setting that has a flag, and settings with an
empty form field come back from their arguments in reverse order. -/
theorem flag_wins_over_unreadable_variable :
    let assignment : Assignment :=
      ⟨[⟨.timeout, Bytes.ofAscii "2.5".toList, true, by decide⟩,
        ⟨.file, Bytes.ofAscii "--=".toList, false, by decide⟩], by decide⟩
    let valueOf : Text → Option Bytes := fun name =>
      if name = "SUBMIT_TIMEOUT".toList then some [0xFF] else none
    let environment := Environment.ofVariables valueOf
    let settings : Settings := {
      file := Bytes.ofAscii "--=".toList, timeout := some ⟨2, 500000000, by decide⟩ }
    let fieldless : Settings := { field := [], timeout := some (.ofWholeSeconds 20) }
    read assignment.arguments environment = .ok settings ∧
      read assignment.arguments (.ofVariables fun _ => none) = .ok settings ∧
      (fieldless.file ≠ [] ∧ 20 ≤ 2 ^ 53 ∧ Setting.all.reverse.Perm Setting.all) ∧
      read (Setting.all.reverse.map fun setting =>
        flag setting ++ equals :: fieldless.written 20 setting) environment = .ok fieldless := by
  intro assignment valueOf environment settings fieldless
  have winning := winning_values_are_read assignment valueOf
  have isRead : read assignment.arguments environment = .ok settings := by
    refine (winning.1 settings).mpr fun setting => ?_
    cases setting with
    | timeout =>
        exact ⟨"2.5".toList, ⟨2, 500000000, by decide⟩, by decide +kernel, by decide +kernel, rfl⟩
    | file => exact ⟨by decide, rfl⟩
    | url | field | mime => rfl
  have shadowed : read assignment.arguments (.ofVariables fun _ => none) =
      read assignment.arguments environment := by
    refine winning.2.2.1 _ fun setting notGiven => ?_
    cases setting with
    | timeout => exact absurd notGiven (by decide)
    | file | url | field | mime => rfl
  have named : fieldless.file ≠ [] := by decide
  have reversed : Setting.all.reverse.Perm Setting.all := List.reverse_perm _
  exact ⟨isRead, shadowed.trans isRead, ⟨named, by norm_num, reversed⟩,
    winning.2.2.2.2 fieldless 20 _ named (by norm_num) rfl reversed⟩

end CommandLine

end UploadProbe
