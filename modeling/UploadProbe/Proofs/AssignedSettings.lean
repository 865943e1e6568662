import Mathlib
import UploadProbe.CommandLine.Reading
import UploadProbe.Proofs.Utf8
import UploadProbe.Proofs.WholeSeconds

/-!
# Settings from arguments, environment and defaults

A command line that gives every setting at most once assigns values one after the other, however
they are written, and the environment only assigns values to the other settings. So reading it is
one series of assignments to different settings, and what comes of such a series depends on nothing
but the value that each setting wins: on the command line, else from the environment, else its
default.
-/

namespace UploadProbe

/-- Whether an octet string can be the value of a setting. -/
def Setting.Accepts : Setting → Bytes → Prop
  | .file, raw => raw ≠ []
  | .timeout, raw =>
      ∃ text duration, Utf8.decode? raw = some text ∧ Duration.read text = .ok duration
  | _, raw => ∃ text, Utf8.decode? raw = some text

namespace Settings

/-- Whether one of the settings is what an octet string makes of it, or its default where nothing
gives it a value. -/
def Holds (settings : Settings) : Setting → Option Bytes → Prop
  | .url, some raw => Utf8.decode? raw = some settings.url
  | .url, none => settings.url = ({} : Settings).url
  | .file, some raw => raw ≠ [] ∧ settings.file = raw
  | .file, none => settings.file = ({} : Settings).file
  | .field, some raw => Utf8.decode? raw = some settings.field
  | .field, none => settings.field = ({} : Settings).field
  | .mime, some raw => Utf8.decode? raw = some settings.mime
  | .mime, none => settings.mime = ({} : Settings).mime
  | .timeout, some raw =>
      ∃ text duration, Utf8.decode? raw = some text ∧ Duration.read text = .ok duration ∧
        settings.timeout = some duration
  | .timeout, none => settings.timeout = none

/-- Whether two settings agree on one of them. -/
def AgreeOn (left right : Settings) : Setting → Prop
  | .url => left.url = right.url
  | .file => left.file = right.file
  | .field => left.field = right.field
  | .mime => left.mime = right.mime
  | .timeout => left.timeout = right.timeout

theorem holds_default (setting : Setting) : ({} : Settings).Holds setting none := by
  cases setting <;> rfl

theorem Holds.accepts {settings : Settings} {setting : Setting} {raw : Bytes}
    (holds : settings.Holds setting (some raw)) : setting.Accepts raw := by
  cases setting with
  | file => exact holds.1
  | timeout =>
      rcases holds with ⟨text, duration, decoded, read, -⟩
      exact ⟨text, duration, decoded, read⟩
  | url => exact ⟨_, holds⟩
  | field => exact ⟨_, holds⟩
  | mime => exact ⟨_, holds⟩

/-- What a value makes of a setting is determined by the value. -/
theorem Holds.agreeOn {left right : Settings} {setting : Setting} {value : Option Bytes}
    (leftHolds : left.Holds setting value) (rightHolds : right.Holds setting value) :
    left.AgreeOn right setting := by
  cases value with
  | none =>
      cases setting <;>
      · exact Eq.trans leftHolds (Eq.symm rightHolds)
  | some raw =>
      cases setting with
      | file => exact leftHolds.2.trans rightHolds.2.symm
      | timeout =>
          rcases leftHolds with ⟨text, duration, decoded, read, timeout⟩
          rcases rightHolds with ⟨otherText, otherDuration, otherDecoded, otherRead, otherTimeout⟩
          rw [decoded, Option.some.injEq] at otherDecoded
          rw [← otherDecoded, read, Except.ok.injEq] at otherRead
          exact timeout.trans (otherRead ▸ otherTimeout.symm)
      | url => exact Option.some.inj (leftHolds.symm.trans rightHolds)
      | field => exact Option.some.inj (leftHolds.symm.trans rightHolds)
      | mime => exact Option.some.inj (leftHolds.symm.trans rightHolds)

theorem AgreeOn.holds {left right : Settings} {setting : Setting} {value : Option Bytes}
    (agree : left.AgreeOn right setting) (holds : right.Holds setting value) :
    left.Holds setting value := by
  cases setting <;> cases value <;> simp only [AgreeOn] at agree <;>
    simpa only [Holds, agree] using holds

theorem eq_of_agreeOn {left right : Settings} (agree : ∀ setting, left.AgreeOn right setting) :
    left = right := by
  cases left
  cases right
  rw [mk.injEq]
  exact ⟨agree .url, agree .file, agree .field, agree .mime, agree .timeout⟩

end Settings

namespace CommandLine

/-- Storing a value sets one setting, if the value is one for it, and leaves the others alone. -/
theorem store_cases (settings : Settings) (setting : Setting) (raw : Bytes) :
    (∃ stored, store settings setting raw = .ok stored ∧ stored.Holds setting (some raw) ∧
        ∀ other, other ≠ setting → stored.AgreeOn settings other) ∨
      ((∃ stop, store settings setting raw = .error stop) ∧ ¬setting.Accepts raw) := by
  cases setting with
  | file =>
      by_cases empty : raw = []
      · refine Or.inr ⟨⟨.missingValue .file, by simp [store, empty]⟩, ?_⟩
        exact fun accepts => accepts empty
      · refine Or.inl ⟨{ settings with file := raw }, by simp [store, empty], ⟨empty, rfl⟩, ?_⟩
        intro other different
        cases other <;> simp_all [Settings.AgreeOn]
  | timeout =>
      cases decoded : Utf8.decode? raw with
      | none =>
          refine Or.inr ⟨⟨.invalidUtf8, by simp [store, decoded]⟩, ?_⟩
          rintro ⟨text, duration, isText, -⟩
          rw [decoded] at isText
          contradiction
      | some text =>
          cases read : Duration.read text with
          | error error =>
              refine Or.inr ⟨⟨.invalidTimeout text error, by simp [store, decoded, read]⟩, ?_⟩
              rintro ⟨otherText, duration, isText, isDuration⟩
              rw [decoded, Option.some.injEq] at isText
              rw [← isText, read] at isDuration
              contradiction
          | ok duration =>
              refine Or.inl ⟨{ settings with timeout := some duration },
                by simp [store, decoded, read], ⟨text, duration, decoded, read, rfl⟩, ?_⟩
              intro other different
              cases other <;> simp_all [Settings.AgreeOn]
  | url | field | mime =>
      cases decoded : Utf8.decode? raw with
      | none =>
          refine Or.inr ⟨⟨.invalidUtf8, by simp [store, decoded]⟩, ?_⟩
          rintro ⟨text, isText⟩
          rw [decoded] at isText
          contradiction
      | some text =>
          refine Or.inl ⟨_, by simp only [store, decoded]; rfl, ?_, ?_⟩
          · exact decoded
          · intro other different
            cases other <;> simp_all [Settings.AgreeOn]

/-- Assigns values one after the other. -/
def assignAll (progress : Progress) : List (Setting × Bytes) → Except Stop Progress
  | [] => .ok progress
  | (setting, raw) :: pairs =>
    match progress.assign setting raw with
    | .ok progress => assignAll progress pairs
    | .error stop => .error stop

theorem assignAll_append (progress : Progress) (left right : List (Setting × Bytes)) :
    assignAll progress (left ++ right) =
      match assignAll progress left with
      | .ok progress => assignAll progress right
      | .error stop => .error stop := by
  induction left generalizing progress with
  | nil => rfl
  | cons pair left inductionHypothesis =>
      rw [List.cons_append, assignAll, assignAll]
      cases progress.assign pair.1 pair.2 with
      | ok progress => exact inductionHypothesis progress
      | error stop => rfl

namespace Progress

/-- Whether every setting is what a value makes of it, and those with a value count as given. -/
def Follows (progress : Progress) (values : Setting → Option Bytes) : Prop :=
  ∀ setting, progress.settings.Holds setting (values setting) ∧
    (setting ∈ progress.given ↔ (values setting).isSome)

theorem follows_nothing : ({} : Progress).Follows fun _ => none :=
  fun setting => ⟨Settings.holds_default setting, by simp⟩

variable {progress : Progress} {values : Setting → Option Bytes}

/-- One assignment to a setting without a value. -/
theorem Follows.assign_cases (follows : progress.Follows values) {setting : Setting}
    (free : values setting = none) (raw : Bytes) :
    (∃ next, progress.assign setting raw = .ok next ∧ next.pending = progress.pending ∧
        next.given = progress.given ++ [setting] ∧
        next.Follows (Function.update values setting (some raw))) ∨
      ((∃ stop, progress.assign setting raw = .error stop) ∧ ¬setting.Accepts raw) := by
  have notGiven : setting ∉ progress.given := by
    rw [(follows setting).2, free]
    simp
  rcases store_cases progress.settings setting raw with
    ⟨stored, isStored, holds, others⟩ | ⟨⟨stop, isStop⟩, refused⟩
  · refine Or.inl ⟨⟨stored, progress.given ++ [setting], progress.pending⟩, ?_, rfl, rfl, ?_⟩
    · rw [assign, if_neg notGiven, isStored]
    intro other
    by_cases same : other = setting
    · subst other
      rw [Function.update_self]
      exact ⟨holds, by simp⟩
    · rw [Function.update_of_ne same]
      exact ⟨(others other same).holds (follows other).1, by simp [same, (follows other).2]⟩
  · refine Or.inr ⟨⟨stop, ?_⟩, refused⟩
    rw [assign, if_neg notGiven, isStop]

/-- Assignments to different settings without values come through if every value is one for its
setting, and then every setting has the value that is assigned to it, or the one it had. -/
theorem Follows.assignAll_cases (follows : progress.Follows values)
    {pairs : List (Setting × Bytes)} (distinct : (pairs.map Prod.fst).Nodup)
    (free : ∀ setting ∈ pairs.map Prod.fst, values setting = none) :
    (∃ next, assignAll progress pairs = .ok next ∧ next.pending = progress.pending ∧
        next.given = progress.given ++ pairs.map Prod.fst ∧
        next.Follows fun setting => (pairs.lookup setting).or (values setting)) ∨
      ((∃ stop, assignAll progress pairs = .error stop) ∧
        ∃ setting raw, pairs.lookup setting = some raw ∧ ¬setting.Accepts raw) := by
  induction pairs generalizing progress values with
  | nil => exact Or.inl ⟨progress, rfl, rfl, by simp, follows⟩
  | cons pair pairs inductionHypothesis =>
      rcases pair with ⟨setting, raw⟩
      rw [List.map_cons, List.nodup_cons] at distinct
      have others : ∀ other ∈ pairs.map Prod.fst, other ≠ setting := by
        rintro other member rfl
        exact distinct.1 member
      rcases follows.assign_cases (free setting List.mem_cons_self) raw with
        ⟨next, assigned, pending, given, nextFollows⟩ | ⟨⟨stop, stopped⟩, refused⟩
      · have nextFree : ∀ other ∈ pairs.map Prod.fst,
            Function.update values setting (some raw) other = none := by
          intro other member
          rw [Function.update_of_ne (others other member)]
          exact free other (List.mem_cons_of_mem _ member)
        rw [assignAll, assigned]
        rcases inductionHypothesis nextFollows distinct.2 nextFree with
          ⟨final, through, finalPending, finalGiven, finalFollows⟩ |
            ⟨stopped, refusing, value, found, refused⟩
        · refine Or.inl ⟨final, through, finalPending.trans pending, ?_, ?_⟩
          · rw [finalGiven, given, List.append_assoc]
            rfl
          · intro other
            have finalHolds := finalFollows other
            by_cases same : other = setting
            · subst other
              have notLater : pairs.lookup setting = none := by
                rw [List.lookup_eq_none_iff]
                intro later member
                have different := others later.1 (List.mem_map_of_mem member)
                simpa using different.symm
              simpa [notLater] using finalHolds
            · have notFirst : (other == setting) = false := by simpa using same
              simpa [List.lookup_cons, notFirst, Function.update_of_ne same] using finalHolds
        · refine Or.inr ⟨stopped, refusing, value, ?_, refused⟩
          have notFirst : (refusing == setting) = false := by
            have member : refusing ∈ pairs.map Prod.fst := by
              rcases List.lookup_eq_some_iff.mp found with ⟨before, behind, same, -⟩
              rw [same]
              simp
            simpa using others refusing member
          simpa [List.lookup_cons, notFirst] using found
      · refine Or.inr ⟨⟨stop, by rw [assignAll, stopped]⟩, setting, raw, ?_, refused⟩
        simp

end Progress

/-- The flag of a setting as an argument. -/
def flag (setting : Setting) : Bytes :=
  Bytes.ofAscii (Flag.setting setting).dashed

/-- A value that the command line gives a setting. -/
structure Given where
  setting : Setting
  value : Bytes
  /-- Whether the value is an argument of its own, and not behind an equals sign. -/
  isApart : Bool
  noFlag : isApart = true → value.head? = some dash → value = [dash]

def Given.arguments (given : Given) : List Bytes :=
  if given.isApart then [flag given.setting, given.value]
  else [flag given.setting ++ equals :: given.value]

def Given.pair (given : Given) : Setting × Bytes :=
  (given.setting, given.value)

theorem ofBytes_flag (setting : Setting) :
    Token.ofBytes (flag setting) = .long (Bytes.ofAscii setting.name) none := by
  cases setting <;> decide

theorem ofBytes_flag_append (setting : Setting) (value : Bytes) :
    Token.ofBytes (flag setting ++ equals :: value) =
      .long (Bytes.ofAscii setting.name) (some value) := by
  cases setting <;> rfl

theorem ofBytes_of_noFlag {value : Bytes} (noFlag : value.head? = some dash → value = [dash]) :
    Token.ofBytes value = .plain value := by
  rcases value with _ | ⟨first, _ | ⟨second, rest⟩⟩
  · rfl
  · rfl
  · have notDash : first ≠ dash := by
      rintro rfl
      simpa using noFlag rfl
    rw [Token.ofBytes, if_neg notDash]

theorem ofName?_name (setting : Setting) :
    (Utf8.decode? (Bytes.ofAscii setting.name)).bind Flag.ofName? = some (.setting setting) := by
  cases setting <;> decide +kernel

theorem readFrom_attached (progress : Progress) (setting : Setting) (value : Bytes)
    (rest : List Bytes) :
    readFrom progress ((flag setting ++ equals :: value) :: rest) =
      match progress.resolve with
      | .error stop => .error stop
      | .ok progress =>
        match progress.assign setting value with
        | .ok progress => readFrom progress rest
        | .error stop => .error stop := by
  cases isResolved : progress.resolve with
  | error stop => simp only [readFrom, ofBytes_flag_append, ofName?_name, isResolved]
  | ok resolved =>
      cases assigned : resolved.assign setting value <;>
        simp only [readFrom, ofBytes_flag_append, ofName?_name, isResolved, assigned]

theorem readFrom_apart (progress : Progress) (setting : Setting) {value : Bytes}
    (noFlag : value.head? = some dash → value = [dash]) (rest : List Bytes) :
    readFrom progress (flag setting :: value :: rest) =
      match progress.resolve with
      | .error stop => .error stop
      | .ok progress => readFrom { progress with pending := some (setting, some value) } rest := by
  cases isResolved : progress.resolve <;>
    simp only [readFrom, ofBytes_flag, ofName?_name, ofBytes_of_noFlag noFlag, isResolved]

namespace Progress

/-- Whether no flag still waits for its value. -/
def IsWhole (progress : Progress) : Prop :=
  ∀ setting, progress.pending ≠ some (setting, none)

theorem isWhole_of_pending {progress : Progress} (pending : progress.pending = none) :
    progress.IsWhole := by
  intro setting
  rw [pending]
  simp

theorem resolve_of_pending {progress : Progress} (pending : progress.pending = none) :
    progress.resolve = .ok progress := by
  rw [resolve, pending]

theorem assign_pending {progress next : Progress} {setting : Setting} {raw : Bytes}
    (assigned : progress.assign setting raw = .ok next) : next.pending = progress.pending := by
  rw [assign] at assigned
  split at assigned
  · contradiction
  split at assigned
  · cases assigned
    rfl
  · contradiction

theorem resolve_pending {progress next : Progress} (resolved : progress.resolve = .ok next) :
    next.pending = none := by
  rw [resolve] at resolved
  split at resolved
  · rename_i pending
    rw [Except.ok.injEq] at resolved
    rw [← resolved, pending]
  · contradiction
  · exact assign_pending resolved

/-- A value that waits is assigned when it counts. -/
theorem resolve_waiting {progress : Progress} (pending : progress.pending = none)
    (setting : Setting) (value : Bytes) :
    { progress with pending := some (setting, some value) }.resolve =
      progress.assign setting value := by
  have same : { progress with pending := none } = progress := by
    rw [← pending]
  simp only [resolve]
  rw [same]

end Progress

/-- Arguments that give values to settings assign the values, in this order, behind the one that
still waits. -/
theorem readFrom_arguments (givens : List Given) {progress : Progress}
    (whole : progress.IsWhole) :
    readFrom progress (givens.flatMap Given.arguments) =
      match progress.resolve with
      | .error stop => .error stop
      | .ok progress => assignAll progress (givens.map Given.pair) := by
  induction givens generalizing progress with
  | nil =>
      rw [List.flatMap_nil, List.map_nil, readFrom]
      cases progress.resolve <;> rfl
  | cons given givens inductionHypothesis =>
      rw [List.flatMap_cons, List.map_cons, Given.arguments, Given.pair]
      by_cases apart : given.isApart = true
      · rw [if_pos apart, List.cons_append, List.singleton_append,
          readFrom_apart _ _ (given.noFlag apart)]
        cases resolved : progress.resolve with
        | error stop => rfl
        | ok next =>
            have waiting :
                { next with pending := some (given.setting, some given.value) }.IsWhole :=
              fun setting => by simp
            dsimp only
            rw [inductionHypothesis waiting,
              Progress.resolve_waiting (Progress.resolve_pending resolved), assignAll]
            cases next.assign given.setting given.value <;> rfl
      · rw [if_neg apart, List.singleton_append, readFrom_attached]
        cases resolved : progress.resolve with
        | error stop => rfl
        | ok next =>
            dsimp only
            rw [assignAll]
            cases assigned : next.assign given.setting given.value with
            | error stop => rfl
            | ok after =>
                have pending : after.pending = none :=
                  (Progress.assign_pending assigned).trans (Progress.resolve_pending resolved)
                dsimp only
                rw [inductionHypothesis (Progress.isWhole_of_pending pending),
                  Progress.resolve_of_pending pending]

/-- The assignments that an environment makes to those of some settings that are not given. -/
def environmentPairs (environment : Environment) (given : List Setting) (settings : List Setting) :
    List (Setting × Bytes) :=
  settings.filterMap fun setting =>
    if setting ∈ given then none else (environment setting).map fun raw => (setting, raw)

theorem mem_environmentPairs {environment : Environment} {given settings : List Setting}
    {setting : Setting} {raw : Bytes} :
    (setting, raw) ∈ environmentPairs environment given settings ↔
      setting ∈ settings ∧ setting ∉ given ∧ environment setting = some raw := by
  rw [environmentPairs, List.mem_filterMap]
  constructor
  · rintro ⟨other, member, made⟩
    split at made
    · contradiction
    · rename_i notGiven
      rw [Option.map_eq_some_iff] at made
      rcases made with ⟨value, fromEnvironment, same⟩
      cases same
      exact ⟨member, notGiven, fromEnvironment⟩
  · rintro ⟨member, notGiven, fromEnvironment⟩
    exact ⟨setting, member, by rw [if_neg notGiven, fromEnvironment]; rfl⟩

/-- Filling in from the environment is a series of assignments. -/
theorem fillFrom_eq (environment : Environment) (progress : Progress) {settings : List Setting}
    (distinct : settings.Nodup) :
    fillFrom environment progress settings =
      assignAll progress (environmentPairs environment progress.given settings) := by
  induction settings generalizing progress with
  | nil => rfl
  | cons setting settings inductionHypothesis =>
      rw [List.nodup_cons] at distinct
      rw [fillFrom, environmentPairs, List.filterMap_cons]
      by_cases given : setting ∈ progress.given
      · simp only [if_pos given]
        exact inductionHypothesis progress distinct.2
      · simp only [if_neg given]
        cases environment setting with
        | none => exact inductionHypothesis progress distinct.2
        | some raw =>
            simp only [Option.map_some, assignAll]
            cases assigned : progress.assign setting raw with
            | error stop => rfl
            | ok next =>
                have added : next.given = progress.given ++ [setting] := by
                  rw [Progress.assign, if_neg given] at assigned
                  split at assigned
                  · cases assigned
                    rfl
                  · contradiction
                have samePairs : environmentPairs environment next.given settings =
                    environmentPairs environment progress.given settings := by
                  refine List.filterMap_congr fun other member => ?_
                  have different : other ≠ setting := by
                    rintro rfl
                    exact distinct.1 member
                  simp [added, different]
                dsimp only
                rw [inductionHypothesis next distinct.2, samePairs]
                rfl

end CommandLine

end UploadProbe
