import Mathlib
import UploadProbe.Program
import UploadProbe.Proofs.Sink
import UploadProbe.Proofs.UploadSteps

/-!
# The steps of a probe

A run of a probe is determined by what comes of opening its sample and of uploading it. With a sink
that takes everything, all that is said reaches the sink, and the run tells every part of what it
leaves behind. The program either stops behind its parser or performs a probe and shows some of its
events.
-/

namespace UploadProbe

namespace Conclusion

/-- What is said about the end of an upload: nothing, if the clock has ended the program. -/
def ofUpload : UploadEnd → Conclusion
  | .answered submission => ofSubmission submission
  | .failed error => ofFailure error.causes
  | .clockOverflow => ⟨[], []⟩

end Conclusion

/-- What a probe meets: the way to its server, the clock and the boundary, the files around it, and
the replies that wait for it. -/
structure Circumstances where
  network : Network
  surroundings : Surroundings
  files : FileTree
  workingDirectory : Place
  script : Script

namespace Circumstances

variable [HostMapping] [MultibyteDecoding]
variable (circumstances : Circumstances) (settings : Settings)

/-- What comes of opening the sample. -/
def opened : Except OpenError Bytes :=
  circumstances.files.openSample circumstances.workingDirectory settings.file

/-- How the upload of a sample with some content ends, and what is left of the script. -/
def uploaded (content : Bytes) : UploadEnd × Script :=
  Probe.upload circumstances.network circumstances.surroundings settings content
    circumstances.script

/-- The run of a probe that writes to a sink. -/
def run (sink : Sink) : ProbeRun :=
  Probe.run circumstances.network circumstances.surroundings settings
    (circumstances.opened settings) sink circumstances.script

/-- Whether the clock can show the end of the timeout. -/
def InTime : Prop :=
  Upload.overflows circumstances.surroundings.clock settings.timeout = false

/-- A machine with a small sample, and a server at a port of its own with one reply. -/
def withReply (reply : Reply) : Circumstances where
  network := .loopback 41357
  surroundings := ⟨.ofNanoseconds 5, ⟨1, 2, 3, 4⟩⟩
  files := .directory [(Bytes.ofAscii "sample.bin".toList, .file [0x4D, 0x5A])]
  workingDirectory := []
  script := { replies := [reply] }

/-- Settings that ask for an upload to that server. -/
def localSettings : Settings where
  url := "http://127.0.0.1:41357/submit".toList

end Circumstances

namespace Probe

theorem concludeUpload_eq (run : ProbeRun) (ending : UploadEnd) :
    concludeUpload run ending =
      { conclude run (.ofUpload ending) with
        clockOverflow := run.clockOverflow || ending = .clockOverflow } := by
  cases ending with
  | answered submission => simp [concludeUpload, conclude, Conclusion.ofUpload]
  | failed error => simp [concludeUpload, conclude, Conclusion.ofUpload]
  | clockOverflow =>
      simp [concludeUpload, conclude, Conclusion.ofUpload, Sink.writePieces]

variable [HostMapping] [MultibyteDecoding]

/-- The sink of a probe behind the announcement. -/
def announced (settings : Settings) (sink : Sink) : Sink :=
  (sink.writePieces (announcementPieces settings)).flush

theorem run_of_stopped {settings : Settings} {sink : Sink}
    (stopped : (announced settings sink).failure ≠ none) (network : Network)
    (surroundings : Surroundings) (content : Bytes) (script : Script) :
    run network surroundings settings (.ok content) sink script =
      { sink := announced settings sink, script } := by
  have isSome : (announced settings sink).failure.isSome := Option.isSome_iff_ne_none.mpr stopped
  rw [announced] at isSome
  simp only [run, isSome, if_true]
  rfl

/-- A probe whose announcement gets through performs its upload and says how it ended. -/
theorem run_of_announced {settings : Settings} {sink : Sink}
    (through : (announced settings sink).failure = none) (network : Network)
    (surroundings : Surroundings) (content : Bytes) (script : Script) :
    run network surroundings settings (.ok content) sink script =
      let uploaded := upload network surroundings settings content script
      let conclusion := Conclusion.ofUpload uploaded.1
      { sink := (announced settings sink).writePieces conclusion.pieces
        events := settings.uploadEvent (sample settings content) :: conclusion.events
        script := uploaded.2
        clockOverflow := uploaded.1 = .clockOverflow } := by
  have isNone : (announced settings sink).failure.isSome = false := by
    rw [through]
    rfl
  rw [announced] at isNone
  simp only [run, isNone, Bool.false_eq_true, if_false, concludeUpload_eq, conclude]
  simp [announced]

end Probe

namespace Circumstances

variable [HostMapping] [MultibyteDecoding]
variable {circumstances : Circumstances} {settings : Settings} {sink : Sink}

theorem run_unopened {error : OpenError} (unopened : circumstances.opened settings = .error error)
    (takesAll : sink.TakesAll) :
    let run := circumstances.run settings sink
    let conclusion := Conclusion.ofFailure (error.causes settings.file)
    run.sink.TakesAll ∧ run.sink.written = sink.written ++ conclusion.output ∧
      run.sink.flushedAt = sink.flushedAt ∧ run.events = conclusion.events ∧
      run.script = circumstances.script ∧ run.clockOverflow = false := by
  rcases takesAll.writePieces (Conclusion.ofFailure (error.causes settings.file)).pieces with
    ⟨stillTakes, written, flushedAt⟩
  rw [run, unopened]
  exact ⟨stillTakes, written, flushedAt, List.nil_append _, rfl, rfl⟩

/-- A probe that has opened its sample announces the upload, performs it, and says how it ended. -/
theorem run_opened {content : Bytes} (opened : circumstances.opened settings = .ok content)
    (takesAll : sink.TakesAll) :
    let run := circumstances.run settings sink
    let uploaded := circumstances.uploaded settings content
    let conclusion := Conclusion.ofUpload uploaded.1
    run.sink.TakesAll ∧
      run.sink.written = sink.written ++ Probe.announcement settings ++ conclusion.output ∧
      run.sink.flushedAt =
        sink.flushedAt ++ [(sink.written ++ Probe.announcement settings).length] ∧
      run.events =
        settings.uploadEvent (Probe.sample settings content) :: conclusion.events ∧
      run.script = uploaded.2 ∧ run.clockOverflow = decide (uploaded.1 = .clockOverflow) := by
  rcases takesAll.writePieces (Probe.announcementPieces settings) with
    ⟨announcing, announcedText, unflushed⟩
  rcases announcing.flush with ⟨announced, flushedText, flushedAt⟩
  rcases announced.writePieces
      (Conclusion.ofUpload (circumstances.uploaded settings content).1).pieces with
    ⟨stillTakes, written, noMore⟩
  rw [announcedText] at flushedText flushedAt
  rw [flushedText] at written
  rw [flushedAt, unflushed] at noMore
  rw [run, opened, Probe.run_of_announced announced.intact]
  exact ⟨stillTakes, written, noMore, rfl, rfl, rfl⟩

/-- The run of the program that is started in some circumstances. -/
def program (circumstances : Circumstances) (invocation : Invocation) (output : Sink) :
    ProgramRun :=
  Program.run invocation (circumstances.files.openSample circumstances.workingDirectory)
    circumstances.network circumstances.surroundings output circumstances.script

variable {invocation : Invocation} {output : Sink}

theorem program_of_rejected {stop : Stop}
    (rejected : CommandLine.read invocation.arguments invocation.environment = .error stop) :
    circumstances.program invocation output =
      Program.stopped invocation.environment stop output circumstances.script := by
  rw [program, Program.run, rejected]

theorem program_of_accepted
    (accepted : CommandLine.read invocation.arguments invocation.environment = .ok settings) :
    circumstances.program invocation output =
      Program.finished (Log.Filter.ofVariable invocation.logVariable)
        (circumstances.run settings output) := by
  rw [program, Program.run, accepted]
  rfl

end Circumstances

namespace Program

variable {run : ProbeRun}

theorem exitCodeAfter_of_stopped (stopped : run.clockOverflow = true) :
    exitCodeAfter run = clockOverflowCode := by
  rw [exitCodeAfter, if_pos stopped]

theorem exitCodeAfter_of_intact (goesOn : run.clockOverflow = false)
    (intact : run.sink.failure = none) : exitCodeAfter run = 0 := by
  simp [exitCodeAfter, goesOn, intact]

theorem exitCodeAfter_of_failed (goesOn : run.clockOverflow = false) {error : SinkError}
    (failed : run.sink.failure = some error) : exitCodeAfter run = outputFailureCode := by
  simp [exitCodeAfter, goesOn, failed]

end Program

end UploadProbe
