import Mathlib
import UploadProbe.Libraries
import UploadProbe.Proofs.ProbeSteps

/-!
# Probes whose sink fails

A sink that has no room for all that a probe says holds exactly the beginning that it has room for,
and the probe returns the failure of the sink; it does not describe it as a failure of the upload.
Without room for the announcement, or without a flush behind it, nothing is sent. With room for it,
the server meets the same requests and the log shows the same events, whether or not the outcome
can be written.
-/

namespace UploadProbe

namespace Sink

/-- What a sink takes of some octets: as many as it has room for. -/
def takenOf (sink : Sink) (octets : Bytes) : Bytes :=
  octets.take (sink.room.getD octets.length)

theorem takenOf_of_room {sink : Sink} {octets : Bytes} (fits : sink.hasRoomFor octets.length) :
    sink.takenOf octets = octets := by
  cases room : sink.room with
  | none => simp [takenOf, room]
  | some count =>
      rw [takenOf, room]
      refine List.take_of_length_le ?_
      simpa [hasRoomFor, room] using fits

theorem takenOf_append_of_noRoom {sink : Sink} {left : Bytes} (right : Bytes)
    (noRoom : sink.hasRoomFor left.length = false) :
    sink.takenOf (left ++ right) = sink.takenOf left := by
  cases room : sink.room with
  | none => simp [hasRoomFor, room] at noRoom
  | some count =>
      simp only [hasRoomFor, room, Option.all_some, decide_eq_false_iff_not, not_le] at noRoom
      simp only [takenOf, room, Option.getD_some]
      exact List.take_append_of_le_length noRoom.le

theorem hasRoomFor_append (sink : Sink) (left right : Bytes) :
    sink.hasRoomFor (left ++ right).length = true ↔
      sink.hasRoomFor left.length = true ∧ (sink.filled left).hasRoomFor right.length = true := by
  cases room : sink.room with
  | none => simp [hasRoomFor, filled, room]
  | some count =>
      simp only [hasRoomFor, filled, room, Option.all_some, Option.map_some, decide_eq_true_eq,
        List.length_append]
      omega

/-- A sink that has room for octets takes of what follows them as much as it takes of the whole. -/
theorem takenOf_append_of_room {sink : Sink} {left : Bytes} (right : Bytes)
    (fits : sink.hasRoomFor left.length) :
    sink.takenOf (left ++ right) = left ++ (sink.filled left).takenOf right := by
  cases room : sink.room with
  | none => simp [takenOf, filled, room]
  | some count =>
      simp only [hasRoomFor, room, Option.all_some, decide_eq_true_eq] at fits
      simp only [takenOf, filled, room, Option.getD_some, Option.map_some, List.take_append,
        List.take_of_length_le fits]

end Sink

namespace ProbeRun

/-- What a probe returns: the failure of its sink, if there is one. It returns nothing if the clock
has ended the program. -/
def returned? (run : ProbeRun) : Option (Except SinkError Unit) :=
  if run.clockOverflow then none
  else
    match run.sink.failure with
    | some error => some (.error error)
    | none => some (.ok ())

end ProbeRun

namespace Probe

variable {settings : Settings} {sink : Sink}

theorem announced_of_room (ready : sink.Ready) (flushes : sink.whenFlushed = none)
    (fits : sink.hasRoomFor (announcement settings).length) :
    ∃ interruptsNext, announced settings sink =
      { sink.filled (announcement settings) with
        flushedAt := [(announcement settings).length]
        interruptsNext } := by
  rcases Sink.exists_writePieces_eq (announcementPieces settings) ready.usable ready.intact with
    ⟨interruptsNext, same⟩
  have taken := Sink.takenOf_of_room fits
  rw [Sink.takenOf] at taken
  refine ⟨interruptsNext, ?_⟩
  rw [announced, same, ← announcement]
  simp [Sink.flush, Sink.filled, fits, flushes, ready.flushedAt, ready.written, taken]

theorem announced_of_noRoom (ready : sink.Ready)
    (noRoom : sink.hasRoomFor (announcement settings).length = false) :
    (announced settings sink).written = sink.takenOf (announcement settings) ∧
      (announced settings sink).failure = some sink.whenFull := by
  rcases Sink.exists_writePieces_eq (announcementPieces settings) ready.usable ready.intact with
    ⟨interruptsNext, same⟩
  rw [announced, same, ← announcement]
  simp [Sink.flush, Sink.filled, Sink.takenOf, noRoom, ready.written]

theorem announced_of_unflushable {error : SinkError} (ready : sink.Ready)
    (fails : sink.whenFlushed = some error)
    (fits : sink.hasRoomFor (announcement settings).length) :
    (announced settings sink).written = sink.takenOf (announcement settings) ∧
      (announced settings sink).failure = some error := by
  rcases Sink.exists_writePieces_eq (announcementPieces settings) ready.usable ready.intact with
    ⟨interruptsNext, same⟩
  rw [announced, same, ← announcement]
  simp [Sink.flush, Sink.filled, Sink.takenOf, fits, fails, ready.written]

end Probe

namespace Circumstances

variable {circumstances : Circumstances} {settings : Settings} {sink : Sink}

/-- The run of a probe that writes to a sink without any limit. -/
def perfectRun [HostMapping] [MultibyteDecoding] (circumstances : Circumstances)
    (settings : Settings) : ProbeRun :=
  circumstances.run settings {}

/-- The announcement, if there is one. -/
def announcement (circumstances : Circumstances) (settings : Settings) : Bytes :=
  match circumstances.opened settings with
  | .ok _ => Probe.announcement settings
  | .error _ => []

theorem announcement_of_opened {content : Bytes}
    (opened : circumstances.opened settings = .ok content) :
    circumstances.announcement settings = Probe.announcement settings := by
  rw [announcement, opened]

variable [HostMapping] [MultibyteDecoding]

/-- Whether the clock ends the program: the sample has been opened, there is something to send, and
the clock cannot show the end of the timeout. -/
def ClockStops (circumstances : Circumstances) (settings : Settings) : Prop :=
  ∃ content request, circumstances.opened settings = .ok content ∧
    Upload.request circumstances.surroundings.boundary settings (Probe.sample settings content) =
      .ok request ∧
    Upload.overflows circumstances.surroundings.clock settings.timeout = true

/-- What a run into a sink shares with the run into a sink without any limit: the sink holds the
beginning that it has room for, and everything happens as it does there if the announcement gets
through, and nothing happens if it does not. -/
structure Follows (circumstances : Circumstances) (settings : Settings) (sink : Sink) : Prop where
  written : (circumstances.run settings sink).sink.written =
    sink.takenOf (circumstances.perfectRun settings).sink.written
  returned : (circumstances.run settings sink).returned? =
    if sink.hasRoomFor (circumstances.perfectRun settings).sink.written.length then
      (circumstances.perfectRun settings).returned?
    else some (.error sink.whenFull)
  announced : sink.hasRoomFor (circumstances.announcement settings).length = true →
    (circumstances.run settings sink).script = (circumstances.perfectRun settings).script ∧
      (circumstances.run settings sink).events = (circumstances.perfectRun settings).events
  unannounced : sink.hasRoomFor (circumstances.announcement settings).length = false →
    (circumstances.run settings sink).script = circumstances.script ∧
      (circumstances.run settings sink).events = []

theorem follows_of_unopened {error : OpenError}
    (unopened : circumstances.opened settings = .error error) (ready : sink.Ready)  :
    circumstances.Follows settings sink := by
  have perfect := run_unopened unopened Sink.takesAll_empty
  rcases perfect with ⟨perfectTakes, perfectWritten, -, perfectEvents, perfectScript, perfectClock⟩
  have output : (circumstances.perfectRun settings).sink.written =
      Utf8.encode (Conclusion.ofFailure (error.causes settings.file)).pieces.flatten :=
    perfectWritten
  rcases Sink.exists_writePieces_eq
      (Conclusion.ofFailure (error.causes settings.file)).pieces ready.usable ready.intact with
    ⟨interruptsNext, same⟩
  have runs : circumstances.run settings sink =
      { sink := { sink.filled (circumstances.perfectRun settings).sink.written with interruptsNext }
        events := (Conclusion.ofFailure (error.causes settings.file)).events
        script := circumstances.script } := by
    rw [output, ← same, run, unopened]
    rfl
  have perfectReturns : (circumstances.perfectRun settings).returned? = some (.ok ()) := by
    rw [ProbeRun.returned?, perfectRun, perfectClock, perfectTakes.intact]
    rfl
  have noAnnouncement : circumstances.announcement settings = [] := by
    rw [announcement, unopened]
  refine ⟨?_, ?_, ?_, ?_⟩
  · rw [runs]
    simp [Sink.filled, Sink.takenOf, ready.written]
  · rw [runs, perfectReturns]
    cases fits : sink.hasRoomFor (circumstances.perfectRun settings).sink.written.length <;>
      simp [ProbeRun.returned?, Sink.filled, fits]
  · intro _
    rw [runs, perfectRun, perfectScript, perfectEvents]
    exact ⟨rfl, rfl⟩
  · intro noRoom
    rw [noAnnouncement] at noRoom
    cases room : sink.room <;> simp [Sink.hasRoomFor, room] at noRoom

theorem run_of_stopped {content : Bytes} (opened : circumstances.opened settings = .ok content)
    (stopped : (Probe.announced settings sink).failure ≠ none) :
    circumstances.run settings sink =
      { sink := Probe.announced settings sink, script := circumstances.script } := by
  rw [run, opened]
  exact Probe.run_of_stopped stopped ..

theorem perfect_written {content : Bytes} (opened : circumstances.opened settings = .ok content) :
    (circumstances.perfectRun settings).sink.written =
      Probe.announcement settings ++
        (Conclusion.ofUpload (circumstances.uploaded settings content).1).output :=
  (run_opened opened Sink.takesAll_empty).2.1

theorem follows_of_noRoom {content : Bytes} (opened : circumstances.opened settings = .ok content)
    (ready : sink.Ready)
    (noRoom : sink.hasRoomFor (Probe.announcement settings).length = false) :
    circumstances.Follows settings sink := by
  rcases Probe.announced_of_noRoom ready noRoom with ⟨written, failure⟩
  have stopped : (Probe.announced settings sink).failure ≠ none := by
    rw [failure]
    exact Option.some_ne_none _
  have runs := run_of_stopped opened stopped
  have tooLong :
      sink.hasRoomFor (circumstances.perfectRun settings).sink.written.length = false := by
    rw [perfect_written opened, Bool.eq_false_iff]
    intro all
    have fits := ((Sink.hasRoomFor_append ..).mp all).1
    rw [noRoom] at fits
    exact Bool.false_ne_true fits
  refine ⟨?_, ?_, ?_, ?_⟩
  · rw [runs, written, perfect_written opened, Sink.takenOf_append_of_noRoom _ noRoom]
  · rw [runs, tooLong]
    simp [ProbeRun.returned?, failure]
  · intro fits
    rw [announcement_of_opened opened, noRoom] at fits
    exact absurd fits Bool.false_ne_true
  · intro _
    rw [runs]
    exact ⟨rfl, rfl⟩

/-- Behind an announcement that fits, the sink is filled with the outcome of the upload. -/
theorem run_of_room {content : Bytes} (opened : circumstances.opened settings = .ok content)
    (ready : sink.Ready) (flushes : sink.whenFlushed = none)
    (fits : sink.hasRoomFor (Probe.announcement settings).length) :
    ∃ flushedAt interruptsNext, circumstances.run settings sink =
      let uploaded := circumstances.uploaded settings content
      let conclusion := Conclusion.ofUpload uploaded.1
      { sink := { (sink.filled (Probe.announcement settings)).filled conclusion.output with
          flushedAt, interruptsNext }
        events := settings.uploadEvent (Probe.sample settings content) :: conclusion.events
        script := uploaded.2
        clockOverflow := uploaded.1 = .clockOverflow } := by
  rcases Probe.announced_of_room ready flushes fits with ⟨interruptsThen, announced⟩
  have intact : (Probe.announced settings sink).failure = none := by
    rw [announced]
    simp [Sink.filled, fits]
  have usable : (Probe.announced settings sink).portion ≠ some 0 := by
    rw [announced]
    exact ready.usable
  rcases Sink.exists_writePieces_eq
      (Conclusion.ofUpload (circumstances.uploaded settings content).1).pieces usable intact with
    ⟨interruptsNext, same⟩
  refine ⟨[(Probe.announcement settings).length], interruptsNext, ?_⟩
  have runs := Probe.run_of_announced intact circumstances.network circumstances.surroundings
    content circumstances.script
  rw [run, opened, runs]
  dsimp only
  rw [show Probe.upload .. = circumstances.uploaded settings content from rfl, same, announced]
  rfl

/-- Into a sink without any limit, only the clock keeps a probe from returning. -/
theorem perfect_returned_of_opened {content : Bytes}
    (opened : circumstances.opened settings = .ok content) :
    (circumstances.perfectRun settings).returned? =
      if (circumstances.uploaded settings content).1 = .clockOverflow then none
      else some (.ok ()) := by
  rcases run_opened opened Sink.takesAll_empty with ⟨takes, -, -, -, -, clock⟩
  rw [ProbeRun.returned?, perfectRun, clock, takes.intact]
  simp

theorem hasRoomFor_perfect {content : Bytes}
    (opened : circumstances.opened settings = .ok content)
    (fits : sink.hasRoomFor (Probe.announcement settings).length) :
    sink.hasRoomFor (circumstances.perfectRun settings).sink.written.length =
      (sink.filled (Probe.announcement settings)).hasRoomFor
        (Conclusion.ofUpload (circumstances.uploaded settings content).1).output.length := by
  rw [perfect_written opened, Bool.eq_iff_iff, Sink.hasRoomFor_append]
  simp [fits]

/-- Behind an announcement that fits, the outcome is cut where the room ends. -/
theorem follows_of_room {content : Bytes} (opened : circumstances.opened settings = .ok content)
    (ready : sink.Ready) (flushes : sink.whenFlushed = none)
    (fits : sink.hasRoomFor (Probe.announcement settings).length) :
    circumstances.Follows settings sink := by
  rcases run_opened opened Sink.takesAll_empty with ⟨-, -, -, perfectEvents, perfectScript, -⟩
  rcases run_of_room opened ready flushes fits with ⟨flushedAt, interruptsNext, runs⟩
  have announcementTaken := Sink.takenOf_of_room fits
  rw [Sink.takenOf] at announcementTaken
  refine ⟨?_, ?_, ?_, ?_⟩
  · rw [runs, perfect_written opened, Sink.takenOf_append_of_room _ fits]
    simp only [Sink.filled, ready.written, List.nil_append, announcementTaken]
    rfl
  · have failure : (circumstances.run settings sink).sink.failure =
        if sink.hasRoomFor (circumstances.perfectRun settings).sink.written.length then none
        else some sink.whenFull := by
      rw [hasRoomFor_perfect opened fits, runs]
      rfl
    have clock : (circumstances.run settings sink).clockOverflow =
        decide ((circumstances.uploaded settings content).1 = .clockOverflow) := by
      rw [runs]
    rw [perfect_returned_of_opened opened, ProbeRun.returned?, clock, failure]
    by_cases stops : (circumstances.uploaded settings content).1 = .clockOverflow
    · have roomForNothing :
          sink.hasRoomFor (circumstances.perfectRun settings).sink.written.length := by
        rw [hasRoomFor_perfect opened fits, stops]
        cases room : sink.room <;>
          simp [Conclusion.ofUpload, Conclusion.output, Sink.hasRoomFor, Sink.filled, room]
      simp [stops, roomForNothing]
    · cases sink.hasRoomFor (circumstances.perfectRun settings).sink.written.length <;>
        simp [stops]
  · intro _
    rw [runs, perfectRun, perfectScript, perfectEvents]
    exact ⟨rfl, rfl⟩
  · intro noRoom
    rw [announcement_of_opened opened, fits] at noRoom
    exact absurd noRoom.symm Bool.false_ne_true

/-- As far as there is a flush, it succeeds: then a run into a sink follows the run into a sink
without any limit. -/
theorem follows (ready : sink.Ready)
    (flushes : (∃ content, circumstances.opened settings = .ok content) → sink.whenFlushed = none) :
    circumstances.Follows settings sink := by
  cases opened : circumstances.opened settings with
  | error error => exact follows_of_unopened opened ready
  | ok content =>
      cases fits : sink.hasRoomFor (Probe.announcement settings).length with
      | false => exact follows_of_noRoom opened ready fits
      | true => exact follows_of_room opened ready (flushes ⟨content, opened⟩) fits

theorem uploaded_eq_clockOverflow_iff {content : Bytes}
    (opened : circumstances.opened settings = .ok content) :
    (circumstances.uploaded settings content).1 = .clockOverflow ↔
      circumstances.ClockStops settings := by
  rw [uploaded, Probe.upload, Upload.run_eq_clockOverflow_iff]
  constructor
  · rintro ⟨⟨request, valid⟩, overflow⟩
    exact ⟨content, request, opened, valid, overflow⟩
  · rintro ⟨found, request, alsoOpened, valid, overflow⟩
    rw [opened] at alsoOpened
    cases alsoOpened
    exact ⟨⟨request, valid⟩, overflow⟩

omit [MultibyteDecoding] in
theorem not_clockStops_of_unopened {error : OpenError}
    (unopened : circumstances.opened settings = .error error) :
    ¬circumstances.ClockStops settings := by
  rintro ⟨content, request, impossible, -⟩
  rw [unopened] at impossible
  exact nomatch impossible

/-- Into a sink without any limit, a probe returns without a failure, unless the clock stops it. -/
theorem perfect_returned (circumstances : Circumstances) (settings : Settings) :
    (¬circumstances.ClockStops settings →
      (circumstances.perfectRun settings).returned? = some (.ok ())) ∧
    (circumstances.ClockStops settings →
      (circumstances.perfectRun settings).returned? = none) := by
  cases opened : circumstances.opened settings with
  | error error =>
      rcases run_unopened opened Sink.takesAll_empty with ⟨takes, -, -, -, -, clock⟩
      rw [ProbeRun.returned?, perfectRun, clock, takes.intact]
      exact ⟨fun _ => rfl, fun stops => absurd stops (not_clockStops_of_unopened opened)⟩
  | ok content =>
      rw [perfect_returned_of_opened opened, ← uploaded_eq_clockOverflow_iff opened]
      constructor
      · intro goesOn
        simp [goesOn]
      · intro stopped
        simp [stopped]

theorem run_of_unflushable {error : SinkError} {content : Bytes} (ready : sink.Ready)
    (fails : sink.whenFlushed = some error)
    (opened : circumstances.opened settings = .ok content) :
    let run := circumstances.run settings sink
    run.sink.written = sink.takenOf (Probe.announcement settings) ∧
      run.script = circumstances.script ∧ run.events = [] ∧
      run.returned? = some (.error
        (if sink.hasRoomFor (Probe.announcement settings).length then error
          else sink.whenFull)) := by
  have announced : (Probe.announced settings sink).written =
        sink.takenOf (Probe.announcement settings) ∧
      (Probe.announced settings sink).failure = some
        (if sink.hasRoomFor (Probe.announcement settings).length then error
          else sink.whenFull) := by
    cases fits : sink.hasRoomFor (Probe.announcement settings).length with
    | false => exact Probe.announced_of_noRoom ready fits
    | true => exact Probe.announced_of_unflushable ready fails fits
  have stopped : (Probe.announced settings sink).failure ≠ none := by
    rw [announced.2]
    exact Option.some_ne_none _
  rw [run_of_stopped opened stopped]
  refine ⟨announced.1, rfl, rfl, ?_⟩
  rw [ProbeRun.returned?, announced.2]
  rfl

end Circumstances

/-- A sink that takes at least one octet at a time while it has room holds, behind a probe, exactly
the beginning that it has room for of what a sink without any limit would hold. The probe returns
without a failure exactly if that is all of it and the clock does not stop the program; otherwise
it returns the failure of the sink. Without room for the announcement, nothing is sent and no event
happens; with room for it, the server and the log are left as they are with a sink without any
limit. A sink that cannot be flushed holds as much of the announcement as it has room for, and
nothing is sent. -/
theorem sink_limits_probe [HostMapping] [MultibyteDecoding] (circumstances : Circumstances)
    (settings : Settings) (sink : Sink) (ready : sink.Ready) :
    let perfect := circumstances.perfectRun settings
    let run := circumstances.run settings sink
    let announcement := circumstances.announcement settings
    (((∃ content, circumstances.opened settings = .ok content) → sink.whenFlushed = none) →
      run.sink.written = sink.takenOf perfect.sink.written ∧
      (run.returned? = some (.ok ()) ↔
        sink.hasRoomFor perfect.sink.written.length = true ∧
          ¬circumstances.ClockStops settings) ∧
      (sink.hasRoomFor perfect.sink.written.length = false →
        run.returned? = some (.error sink.whenFull)) ∧
      (sink.hasRoomFor announcement.length = false →
        run.script = circumstances.script ∧ run.events = []) ∧
      (sink.hasRoomFor announcement.length = true →
        run.script = perfect.script ∧ run.events = perfect.events)) ∧
    ∀ error content, sink.whenFlushed = some error → circumstances.opened settings = .ok content →
      run.sink.written = sink.takenOf announcement ∧
      run.script = circumstances.script ∧ run.events = [] ∧
      run.returned? = some (.error
        (if sink.hasRoomFor announcement.length then error else sink.whenFull)) := by
  rcases circumstances.perfect_returned settings with ⟨goesOn, stops⟩
  refine ⟨?_, ?_⟩
  · intro flushes
    rcases Circumstances.follows ready flushes with ⟨written, returned, announced, unannounced⟩
    refine ⟨written, ?_, ?_, unannounced, announced⟩
    · rw [returned]
      by_cases clock : circumstances.ClockStops settings
      · rw [stops clock]
        split <;> simp [clock]
      · rw [goesOn clock]
        split <;> simp_all
    · intro tooLong
      rw [returned, tooLong]
      rfl
  · intro error content fails opened
    rw [Circumstances.announcement_of_opened opened]
    exact Circumstances.run_of_unflushable ready fails opened

/-- A sink with room for the announcement alone, which takes seven octets at a time between
interruptions, holds the announcement, and the request is sent. -/
theorem sink_limits_probe_to_announcement :
    let circumstances := Circumstances.withReply ⟨[], .closes⟩
    let settings := Circumstances.localSettings
    let sink : Sink := { room := some 51, portion := some 7, interrupts := true }
    (sink.Ready ∧ sink.whenFlushed = none ∧
        circumstances.opened settings = .ok [0x4D, 0x5A] ∧
        sink.hasRoomFor (circumstances.announcement settings).length = true) ∧
      (circumstances.run settings sink).script = (circumstances.perfectRun settings).script ∧
      (circumstances.run settings sink).events = (circumstances.perfectRun settings).events := by
  intro circumstances settings sink
  have ready : sink.Ready := ⟨rfl, rfl, rfl, by decide⟩
  have fits : sink.hasRoomFor (circumstances.announcement settings).length = true := by
    decide +kernel
  have limits := (sink_limits_probe circumstances settings sink ready).1 fun _ => rfl
  exact ⟨⟨ready, rfl, by decide +kernel, fits⟩, limits.2.2.2.2 fits⟩

end UploadProbe
