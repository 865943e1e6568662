import Mathlib
import UploadProbe.Libraries
import UploadProbe.Proofs.FailingSinks
import UploadProbe.Proofs.Outcomes
import UploadProbe.Proofs.ProbeSteps

/-!
# What the program leaves behind

The program says on its standard output what a probe says, and nothing else; it sends what a probe
sends; and it fails only where its output does. What the environment asks for in the log reaches the
standard error alone: nothing else depends on it.
-/

namespace UploadProbe

namespace Log

/-- Whether an event comes from the program itself. -/
def Event.IsOwn (event : Event) : Prop :=
  "submit_probe".toList <+: event.target

/-- Whether an event is one of those that are told when nothing else is asked for. -/
def Event.isTold (event : Event) : Bool :=
  event.level = .info || event.level = .warn

def lines (events : List Event) : Text :=
  events.flatMap fun event => event.line ++ ['\n']

namespace Filter

/-- Whether the log variable is unset, or is no filter. -/
def IsUnreadable (value : Option Bytes) : Prop :=
  (value.bind Utf8.decode?).bind read? = none

theorem ofVariable_of_isUnreadable {value : Option Bytes} (unreadable : IsUnreadable value) :
    ofVariable value = standard := by
  rw [IsUnreadable] at unreadable
  rw [ofVariable, unreadable]

theorem standard_shows {event : Event} (own : event.IsOwn) :
    standard.shows event = decide (event.level.verbosity ≤ Level.info.verbosity) := by
  have ofProgram : "submit_probe".toList.isPrefixOf event.target = true :=
    List.isPrefixOf_iff_prefix.mpr own
  have concerned : (⟨some "submit_probe".toList, [], Level.info.verbosity⟩ :
      Directive).concerns event = true := by
    simp only [Directive.concerns, ofProgram, List.all_nil, Bool.and_self]
  simp only [shows, deciding?, standard, List.filter_cons, concerned, if_true, List.filter_nil,
    List.foldl_cons, List.foldl_nil]

/-- Of events of the program itself, the standard filter shows those that are told. -/
theorem standard_shows_eq_isTold {event : Event} (own : event.IsOwn)
    (noError : event.level ≠ .error) : standard.shows event = event.isTold := by
  rw [standard_shows own, Event.isTold]
  cases level : event.level with
  | error => exact absurd level noError
  | warn => rfl
  | info => rfl
  | debug => rfl
  | trace => rfl

end Filter

end Log

/-- Whether an event may come from a probe: it is told when nothing else is asked for, or it is one
for those who look for faults. -/
def Log.Event.IsOfProbe (event : Log.Event) : Prop :=
  event.IsOwn ∧ (event.isTold = true ∨ event.level = .debug)

namespace Conclusion

theorem isOfProbe_of_mem_ofFailure (causes : List Text) :
    ∀ event ∈ (ofFailure causes).events, event.IsOfProbe := by
  intro event member
  rw [List.mem_singleton.mp member]
  exact ⟨⟨"::probe".toList, rfl⟩, Or.inl rfl⟩

theorem isOfProbe_of_mem_ofSubmission (submission : Submission) :
    ∀ event ∈ (ofSubmission submission).events, event.IsOfProbe := by
  intro event member
  rcases List.mem_cons.mp member with rfl | ofReceipt
  · exact ⟨⟨"::probe".toList, rfl⟩, Or.inl rfl⟩
  · rw [Option.mem_toList, Option.map_eq_some_iff] at ofReceipt
    rcases ofReceipt with ⟨receipt, -, rfl⟩
    exact ⟨⟨"::probe".toList, rfl⟩, Or.inl rfl⟩

theorem isOfProbe_of_mem_ofUpload (ending : UploadEnd) :
    ∀ event ∈ (ofUpload ending).events, event.IsOfProbe := by
  cases ending with
  | answered submission => exact isOfProbe_of_mem_ofSubmission submission
  | failed error => exact isOfProbe_of_mem_ofFailure error.causes
  | clockOverflow => simp [ofUpload]

end Conclusion

/-- With the standard filter, the log of a probe shows the events that are told. -/
theorem Program.logText_standard {events : List Log.Event}
    (ofProbe : ∀ event ∈ events, event.IsOfProbe) :
    Program.logText Log.Filter.standard events = Log.lines (events.filter Log.Event.isTold) := by
  have shown : events.filter Log.Filter.standard.shows = events.filter Log.Event.isTold := by
    apply List.filter_congr
    intro event member
    rcases ofProbe event member with ⟨own, level⟩
    apply Log.Filter.standard_shows_eq_isTold own
    intro isError
    simp [Log.Event.isTold, isError] at level
  rw [Program.logText, shown, Log.lines]

namespace Circumstances

variable {circumstances : Circumstances} {settings : Settings} {sink : Sink}

theorem announcement_ne_nil (settings : Settings) : Probe.announcement settings ≠ [] := by
  have some : ProbeOutcome.announcement settings ≠ [] := by
    unfold ProbeOutcome.announcement
    simp
  rw [ProbeOutcome.announcement_encode]
  exact fun none => some (Utf8.encode_injective none)

theorem hasRoomFor_eq_false {octets : Bytes} (noRoom : sink.room = some 0)
    (nonempty : octets ≠ []) : sink.hasRoomFor octets.length = false := by
  simp [Sink.hasRoomFor, noRoom, nonempty]

variable [HostMapping] [MultibyteDecoding]

theorem isOfProbe_of_mem_events (takesAll : sink.TakesAll) :
    ∀ event ∈ (circumstances.run settings sink).events, event.IsOfProbe := by
  cases opened : circumstances.opened settings with
  | error error =>
      rw [(run_unopened opened takesAll).2.2.2.1]
      exact Conclusion.isOfProbe_of_mem_ofFailure _
  | ok content =>
      rw [(run_opened opened takesAll).2.2.2.1]
      intro event member
      rcases List.mem_cons.mp member with rfl | told
      · exact ⟨⟨"::api".toList, rfl⟩, Or.inr rfl⟩
      · exact Conclusion.isOfProbe_of_mem_ofUpload _ event told

/-- Into a sink that takes everything, a probe says and does what it does into one without any
limit. -/
theorem run_eq_perfect (ready : sink.Ready) (takesAll : sink.TakesAll) :
    let run := circumstances.run settings sink
    let perfect := circumstances.perfectRun settings
    run.sink.failure = none ∧ run.sink.written = perfect.sink.written ∧
      run.events = perfect.events ∧ run.script = perfect.script ∧
      run.clockOverflow = perfect.clockOverflow := by
  cases opened : circumstances.opened settings with
  | error error =>
      rcases run_unopened opened takesAll with ⟨takes, written, -, events, script, clock⟩
      rcases run_unopened opened Sink.takesAll_empty with
        ⟨-, perfectWritten, -, perfectEvents, perfectScript, perfectClock⟩
      rw [ready.written] at written
      exact ⟨takes.intact, written.trans perfectWritten.symm, events.trans perfectEvents.symm,
        script.trans perfectScript.symm, clock.trans perfectClock.symm⟩
  | ok content =>
      rcases run_opened opened takesAll with ⟨takes, written, -, events, script, clock⟩
      rcases run_opened opened Sink.takesAll_empty with
        ⟨-, perfectWritten, -, perfectEvents, perfectScript, perfectClock⟩
      rw [ready.written] at written
      exact ⟨takes.intact, written.trans perfectWritten.symm, events.trans perfectEvents.symm,
        script.trans perfectScript.symm, clock.trans perfectClock.symm⟩

theorem perfect_written_ne_nil (circumstances : Circumstances) (settings : Settings) :
    (circumstances.perfectRun settings).sink.written ≠ [] := by
  cases opened : circumstances.opened settings with
  | error error =>
      have some : ProbeOutcome.failureLine (describe (error.causes settings.file)) ≠ [] := by
        unfold ProbeOutcome.failureLine
        simp
      rw [perfectRun, (run_unopened opened Sink.takesAll_empty).2.1, List.nil_append,
        ProbeOutcome.output_ofFailure]
      exact fun none => some (Utf8.encode_injective none)
  | ok content =>
      rw [perfect_written opened]
      exact List.append_ne_nil_of_left_ne_nil (announcement_ne_nil settings) _

/-- Without any room, a probe sends nothing and returns the failure of its sink. -/
theorem run_of_noRoom (ready : sink.Ready) (flushes : sink.whenFlushed = none)
    (noRoom : sink.room = some 0) :
    let run := circumstances.run settings sink
    run.script = circumstances.script ∧ run.returned? = some (.error sink.whenFull) := by
  rcases @follows circumstances settings sink _ _ ready fun _ => flushes with
    ⟨-, returned, -, unannounced⟩
  have tooLong := hasRoomFor_eq_false noRoom (circumstances.perfect_written_ne_nil settings)
  rw [tooLong] at returned
  refine ⟨?_, returned⟩
  cases opened : circumstances.opened settings with
  | error error =>
      rw [run, opened]
      rfl
  | ok content =>
      rw [announcement_of_opened opened] at unannounced
      exact (unannounced (hasRoomFor_eq_false noRoom (announcement_ne_nil settings))).1

end Circumstances

theorem ProbeRun.failed_of_returned {run : ProbeRun} {error : SinkError}
    (returned : run.returned? = some (.error error)) :
    run.clockOverflow = false ∧ run.sink.failure = some error := by
  rw [ProbeRun.returned?] at returned
  split at returned
  · contradiction
  rename_i noOverflow
  refine ⟨by simpa using noOverflow, ?_⟩
  cases failure : run.sink.failure with
  | none => simp [failure] at returned
  | some other => simpa [failure] using returned

namespace Program

theorem ready_fullOutput : fullOutput.Ready :=
  ⟨rfl, rfl, rfl, by decide⟩

theorem written_write {output : Sink} (ready : output.Ready) (takesAll : output.TakesAll)
    (text : Text) : (output.write (Utf8.encode text)).written = Utf8.encode text := by
  have written := (takesAll.writePieces [text]).2.1
  rw [ready.written, List.nil_append, List.flatten_cons, List.flatten_nil,
    List.append_nil] at written
  exact written

/-- When its arguments are rejected, the program either answers on its output and succeeds, or
complains beside it and fails. -/
theorem stopped_of_takesAll {output : Sink} (ready : output.Ready) (takesAll : output.TakesAll)
    (environment : Environment) (stop : Stop) (script : Script) :
    stopped environment stop output script =
      if stop = .help ∨ stop = .version then
        { output := Utf8.encode (stop.render environment), exitCode := 0, script }
      else { errorOutput := stop.render environment, exitCode := 2, script } := by
  have answers : stop.isAnswer = decide (stop = .help ∨ stop = .version) := by
    cases stop <;> rfl
  simp only [stopped, Stop.exitCode, answers, decide_eq_true_eq, written_write ready takesAll,
    ready.written]
  split <;> rfl

end Program

namespace Circumstances

variable [HostMapping] [MultibyteDecoding]
variable {circumstances : Circumstances} {invocation : Invocation} {settings : Settings}
  {output : Sink}

/-- The program writes and sends what its probe does, and succeeds unless the clock ends it. -/
theorem program_eq_perfect (ready : output.Ready) (takesAll : output.TakesAll)
    (accepted : CommandLine.read invocation.arguments invocation.environment = .ok settings) :
    let program := circumstances.program invocation output
    let perfect := circumstances.perfectRun settings
    program.output = perfect.sink.written ∧ program.script = perfect.script ∧
      program.clockOverflow = perfect.clockOverflow ∧
      (perfect.clockOverflow = false → program.exitCode = 0) ∧
      (Log.Filter.IsUnreadable invocation.logVariable →
        program.errorOutput = Log.lines (perfect.events.filter Log.Event.isTold)) := by
  rcases @run_eq_perfect circumstances settings output _ _ ready takesAll with
    ⟨failure, written, events, script, clock⟩
  intro program perfect
  have finished : program = Program.finished _ (circumstances.run settings output) :=
    program_of_accepted accepted
  refine ⟨?_, ?_, ?_, ?_, ?_⟩
  · rw [finished]
    exact written
  · rw [finished]
    exact script
  · rw [finished]
    exact clock
  · intro goesOn
    rw [finished]
    exact Program.exitCodeAfter_of_intact (clock.trans goesOn) failure
  · intro unreadable
    have log := Program.logText_standard
      (@isOfProbe_of_mem_events circumstances settings output _ _ takesAll)
    rw [events] at log
    rw [finished, Program.finished, failure, Log.Filter.ofVariable_of_isUnreadable unreadable,
      events, log]
    exact List.append_nil _

/-- A full standard output is a failure before anything is sent. -/
theorem program_of_fullOutput
    (accepted : CommandLine.read invocation.arguments invocation.environment = .ok settings) :
    let program := circumstances.program invocation Program.fullOutput
    program.exitCode = 1 ∧ program.script = circumstances.script ∧
      program.clockOverflow = false := by
  rcases @run_of_noRoom circumstances settings Program.fullOutput _ _
    Program.ready_fullOutput rfl rfl with ⟨script, returned⟩
  rcases ProbeRun.failed_of_returned returned with ⟨clock, failure⟩
  rw [program_of_accepted accepted]
  exact ⟨Program.exitCodeAfter_of_failed clock failure, script, clock⟩

/-- What the log is asked for reaches the standard error alone. -/
theorem program_with_logVariable (circumstances : Circumstances) (invocation : Invocation)
    (output : Sink) (logVariable : Option Bytes) :
    let program := circumstances.program invocation output
    let other := circumstances.program { invocation with logVariable } output
    other.output = program.output ∧ other.exitCode = program.exitCode ∧
      other.script = program.script ∧ other.clockOverflow = program.clockOverflow := by
  intro program other
  cases parsed : CommandLine.read invocation.arguments invocation.environment with
  | error stop =>
      rw [show program = _ from program_of_rejected parsed,
        show other = _ from program_of_rejected parsed]
      exact ⟨rfl, rfl, rfl, rfl⟩
  | ok settings =>
      rw [show program = _ from program_of_accepted parsed,
        show other = _ from program_of_accepted parsed]
      exact ⟨rfl, rfl, rfl, rfl⟩

end Circumstances

/-- The program is a probe behind its parser. Rejected arguments lead to no request, and to an
answer on the standard output or a complaint on the standard error. Accepted ones lead to what a
probe writes and sends, and to success, unless the clock ends the program; with a full standard
output they lead to a failure, and nothing is sent. What the log is asked for changes nothing of all
that, and unless a filter is asked for, the standard error shows the events of the probe that are
told. -/
theorem program_is_probe_behind_command_line [HostMapping] [MultibyteDecoding]
    (invocation : Invocation) (circumstances : Circumstances) (output : Sink)
    (ready : output.Ready) (takesAll : output.TakesAll) :
    let program := circumstances.program invocation
    let read := CommandLine.read invocation.arguments invocation.environment
    (∀ stop, read = .error stop →
      program output =
        if stop = .help ∨ stop = .version then
          { output := Utf8.encode (stop.render invocation.environment), exitCode := 0
            script := circumstances.script }
        else
          { errorOutput := stop.render invocation.environment, exitCode := 2
            script := circumstances.script }) ∧
    (∀ settings, read = .ok settings →
      let perfect := circumstances.perfectRun settings
      (program output).output = perfect.sink.written ∧
      (program output).script = perfect.script ∧
      (program output).clockOverflow = perfect.clockOverflow ∧
      (perfect.clockOverflow = false → (program output).exitCode = 0 ∧
        (Log.Filter.IsUnreadable invocation.logVariable →
          (program output).errorOutput = Log.lines (perfect.events.filter Log.Event.isTold))) ∧
      (program Program.fullOutput).exitCode = 1 ∧
      (program Program.fullOutput).script = circumstances.script ∧
      (program Program.fullOutput).clockOverflow = false) ∧
    ∀ (anyOutput : Sink) (logVariable : Option Bytes),
      let other := circumstances.program { invocation with logVariable } anyOutput
      other.output = (program anyOutput).output ∧
        other.exitCode = (program anyOutput).exitCode ∧
        other.script = (program anyOutput).script ∧
        other.clockOverflow = (program anyOutput).clockOverflow := by
  intro program read
  refine ⟨?_, ?_, circumstances.program_with_logVariable invocation⟩
  · intro stop rejected
    rw [show program output = _ from Circumstances.program_of_rejected rejected]
    exact Program.stopped_of_takesAll ready takesAll _ stop _
  · intro settings accepted perfect
    rcases @Circumstances.program_eq_perfect _ _ circumstances _ _ _ ready takesAll accepted
      with
      ⟨written, script, clock, exitCode, log⟩
    exact ⟨written, script, clock, fun goesOn => ⟨exitCode goesOn, log⟩,
      Circumstances.program_of_fullOutput accepted⟩

/-- With a log variable that is no filter, a run that is answered shows one line in its log. -/
theorem program_is_probe_with_unreadable_filter :
    let invocation : Invocation := {
      arguments := [Bytes.ofAscii "--url=http://127.0.0.1:41357/submit".toList]
      environment := fun _ => none
      logVariable := some (Bytes.ofAscii "a=b=c".toList) }
    let circumstances := Circumstances.withReply
      ⟨Bytes.ofAscii "HTTP/1.1 200 OK\r\ncontent-length: 2\r\n\r\nOK".toList, .staysOpen⟩
    let settings := Circumstances.localSettings
    let program := circumstances.program invocation
    (({} : Sink).Ready ∧ ({} : Sink).TakesAll ∧
        CommandLine.read invocation.arguments invocation.environment = .ok settings ∧
        (circumstances.perfectRun settings).clockOverflow = false ∧
        Log.Filter.IsUnreadable invocation.logVariable) ∧
      (program {}).exitCode = 0 ∧ (program Program.fullOutput).exitCode = 1 ∧
      (program {}).errorOutput =
        " INFO submit_probe::probe: submission answered status=200\n".toList := by
  intro invocation circumstances settings program
  have accepted : CommandLine.read invocation.arguments invocation.environment = .ok settings := by
    decide +kernel
  have goesOn : (circumstances.perfectRun settings).clockOverflow = false := by decide +kernel
  have unreadable : Log.Filter.IsUnreadable invocation.logVariable := by
    unfold Log.Filter.IsUnreadable
    rfl
  rcases (program_is_probe_behind_command_line invocation circumstances {} Sink.ready_empty
    Sink.takesAll_empty).2.1 settings accepted with ⟨-, -, -, ends, full, -⟩
  rcases ends goesOn with ⟨exitCode, log⟩
  refine ⟨⟨Sink.ready_empty, Sink.takesAll_empty, accepted, goesOn, unreadable⟩, exitCode, full, ?_⟩
  rw [show (program {}).errorOutput = _ from log unreadable]
  decide +kernel

end UploadProbe
