import Mathlib
import UploadProbe.Libraries
import UploadProbe.Proofs.FailingSinks
import UploadProbe.Proofs.Outcomes
import UploadProbe.Proofs.ProbeSteps

/-!
# Settings that are accepted

Whatever settings the command line and the environment give, a probe runs to its end and tells one
outcome, and the program succeeds. There is one exception: the command line accepts timeouts whose
end the clock cannot show, and such a timeout ends the program behind the announcement as soon as
there is something to send.
-/

namespace UploadProbe

namespace ProbeOutcome

/-- What is told of an outcome ends with a whole line. -/
theorem exists_text_eq_line (settings : Settings) (outcome : ProbeOutcome) :
    ∃ lines, outcome.text settings = lines ++ ['\n'] := by
  cases outcome with
  | unopened description => exact ⟨_, rfl⟩
  | answered status body => exact ⟨announcement settings ++ _, (List.append_assoc ..).symm⟩
  | failed description => exact ⟨announcement settings ++ _, (List.append_assoc ..).symm⟩

/-- Unless the clock stops it, a probe ends in some way. -/
theorem exists_holds_of_not_clockStops [HostMapping] [MultibyteDecoding]
    {circumstances : Circumstances} {settings : Settings}
    (goesOn : ¬circumstances.ClockStops settings) :
    ∃ outcome, Holds circumstances settings outcome := by
  cases opened : circumstances.opened settings with
  | error error => exact ⟨unopened _, error, opened, rfl⟩
  | ok content =>
      cases ending : (circumstances.uploaded settings content).1 with
      | answered submission => exact ⟨answered _ _, content, opened, ending⟩
      | failed error => exact ⟨failed _, content, error, opened, ending, rfl⟩
      | clockOverflow =>
          exact absurd ((Circumstances.uploaded_eq_clockOverflow_iff opened).mp ending) goesOn

end ProbeOutcome

namespace Circumstances

variable [HostMapping] [MultibyteDecoding]
variable {circumstances : Circumstances} {settings : Settings} {sink : Sink}

theorem run_clockOverflow_iff (takesAll : sink.TakesAll) :
    (circumstances.run settings sink).clockOverflow = true ↔
      circumstances.ClockStops settings := by
  cases opened : circumstances.opened settings with
  | error error =>
      rw [(run_unopened opened takesAll).2.2.2.2.2]
      simp [not_clockStops_of_unopened opened]
  | ok content =>
      rw [(run_opened opened takesAll).2.2.2.2.2, decide_eq_true_eq,
        uploaded_eq_clockOverflow_iff opened]

/-- A probe that the clock stops has announced its upload and says nothing else. -/
theorem written_of_clockStops (ready : sink.Ready) (takesAll : sink.TakesAll)
    (stops : circumstances.ClockStops settings) :
    (circumstances.run settings sink).sink.written = Probe.announcement settings := by
  rcases stops with ⟨content, request, opened, valid, overflow⟩
  have ended :=
    (uploaded_eq_clockOverflow_iff opened).mpr ⟨content, request, opened, valid, overflow⟩
  rw [(run_opened opened takesAll).2.1, ready.written, ended]
  exact List.append_nil _

theorem returned?_of_clockStops (takesAll : sink.TakesAll)
    (stops : circumstances.ClockStops settings) :
    (circumstances.run settings sink).returned? = none := by
  rw [ProbeRun.returned?, (run_clockOverflow_iff takesAll).mpr stops]
  rfl

end Circumstances

/-- Settings that are accepted lead to a run that returns without a failure and has written one
outcome as a whole line, and with a standard output that takes everything the program exits with
zero. This holds exactly if the clock does not stop the run, which it does where the end of an
accepted timeout lies beyond what the clock can show and there is something to send: then nothing
stands behind the announcement, and the exit code is that of a program that has been ended. -/
theorem accepted_settings_run_unless_clock_stops [HostMapping] [MultibyteDecoding]
    (invocation : Invocation) (circumstances : Circumstances) (settings : Settings)
    (accepted : CommandLine.read invocation.arguments invocation.environment = .ok settings)
    (sink : Sink) (ready : sink.Ready) (takesAll : sink.TakesAll) :
    let run := circumstances.run settings sink
    let program := circumstances.program invocation sink
    (¬circumstances.ClockStops settings →
      run.returned? = some (.ok ()) ∧
      (∃! outcome, ProbeOutcome.Holds circumstances settings outcome) ∧
      (∀ outcome : ProbeOutcome, outcome.Holds circumstances settings →
        run.sink.written = outcome.output settings) ∧
      (∃ lines, run.sink.written = Utf8.encode (lines ++ ['\n'])) ∧
      program.output = run.sink.written ∧ program.exitCode = 0 ∧
      program.clockOverflow = false) ∧
    (circumstances.ClockStops settings →
      run.returned? = none ∧ run.sink.written = Probe.announcement settings ∧
      program.output = run.sink.written ∧ program.exitCode = Program.clockOverflowCode ∧
      program.clockOverflow = true) := by
  intro run program
  have finished : program = Program.finished _ run := Circumstances.program_of_accepted accepted
  constructor
  · intro goesOn
    rcases ProbeOutcome.exists_holds_of_not_clockStops goesOn with ⟨outcome, holds⟩
    rcases ProbeOutcome.run_of_holds ready takesAll holds with ⟨failure, clock, written, -, -⟩
    have told : ∀ other : ProbeOutcome, other.Holds circumstances settings →
        run.sink.written = other.output settings :=
      fun other alsoHolds => (ProbeOutcome.run_of_holds ready takesAll alsoHolds).2.2.1
    have returned : run.returned? = some (.ok ()) := by
      rw [ProbeRun.returned?, show run.clockOverflow = false from clock,
        show run.sink.failure = none from failure]
      rfl
    refine ⟨returned, ⟨outcome, holds, ?_⟩, told, ?_, ?_, ?_, ?_⟩
    · intro other alsoHolds
      exact ProbeOutcome.output_injective settings ((told other alsoHolds).symm.trans written)
    · rcases ProbeOutcome.exists_text_eq_line settings outcome with ⟨lines, text⟩
      exact ⟨lines, by rw [← text]; exact written⟩
    · rw [finished]
      rfl
    · rw [finished]
      exact Program.exitCodeAfter_of_intact clock failure
    · rw [finished]
      exact clock
  · intro stops
    have stopped : run.clockOverflow = true :=
      (Circumstances.run_clockOverflow_iff takesAll).mpr stops
    refine ⟨Circumstances.returned?_of_clockStops takesAll stops,
      Circumstances.written_of_clockStops ready takesAll stops, ?_, ?_, ?_⟩
    · rw [finished]
      rfl
    · rw [finished]
      exact Program.exitCodeAfter_of_stopped stopped
    · rw [finished]
      exact stopped

/-- The command line accepts a timeout of more seconds than the clock has, and with it the program
ends behind the announcement. -/
theorem enormous_timeout_stops_accepted_run :
    let invocation : Invocation := {
      arguments := ["--timeout=1e19", "--url=http://127.0.0.1:41357/submit"].map
        fun argument => Bytes.ofAscii argument.toList
      environment := fun _ => none
      logVariable := none }
    let circumstances := Circumstances.withReply ⟨[], .closes⟩
    let settings := { Circumstances.localSettings with
      timeout := some ⟨10000000000000000000, 0, by decide⟩ }
    (CommandLine.read invocation.arguments invocation.environment = .ok settings ∧
        ({} : Sink).Ready ∧ ({} : Sink).TakesAll ∧ circumstances.ClockStops settings) ∧
      (circumstances.run settings {}).returned? = none ∧
      (circumstances.program invocation {}).exitCode = 101 ∧
      (circumstances.program invocation {}).clockOverflow = true := by
  intro invocation circumstances settings
  have accepted : CommandLine.read invocation.arguments invocation.environment = .ok settings := by
    decide +kernel
  have stops : circumstances.ClockStops settings := by
    have opened : circumstances.opened settings = .ok [0x4D, 0x5A] := by decide +kernel
    exact (Circumstances.uploaded_eq_clockOverflow_iff opened).mp (by decide +kernel)
  have ends := (accepted_settings_run_unless_clock_stops invocation circumstances settings accepted
    {} Sink.ready_empty Sink.takesAll_empty).2 stops
  exact ⟨⟨accepted, Sink.ready_empty, Sink.takesAll_empty, stops⟩, ends.1, ends.2.2.2⟩

end UploadProbe
