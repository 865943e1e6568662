import Mathlib
import UploadProbe.Libraries
import UploadProbe.Proofs.AcceptedSettings
import UploadProbe.Proofs.PostedForms
import UploadProbe.Proofs.Receipts

/-!
# The log of a probe

The log of a probe and its output tell the same: a failure by the same description, an answer by the
same status, and an upload by the names and the length of the form that is sent. Only the log tells
what a receipt says. Whether an answer is taken for one changes nothing else, so a probe that
recognizes receipts in any other way writes and sends the same.
-/

namespace UploadProbe

namespace Log

/-- What is told by an event: its level, its message and its values as they are. -/
structure Entry where
  level : Level
  message : Text
  values : List (Text × Text) := []
deriving DecidableEq, Repr

def Event.entry (event : Event) : Entry where
  level := event.level
  message := event.message
  values := event.fields.map fun field => (field.1, field.2.text)

end Log

namespace ProbeOutcome

/-- What is told in front of an upload of so many octets. -/
def uploadEntry (settings : Settings) (length : Nat) : Log.Entry where
  level := .debug
  message := "building multipart upload".toList
  values := [
    ("field".toList, settings.field), ("file_name".toList, settings.uploadFileName),
    ("mime".toList, settings.mime), ("len".toList, Text.ofNat length)]

def failureEntry (description : Text) : Log.Entry where
  level := .warn
  message := "submission failed: ".toList ++ description

def answerEntry (status : Nat) : Log.Entry where
  level := .info
  message := "submission answered".toList
  values := [("status".toList, Text.ofNat status)]

def receiptEntry (receipt : JobReceipt) : Log.Entry where
  level := .info
  message := "job receipt: ".toList ++ receipt.message
  values := [
    ("job_id".toList, receipt.jobId), ("status".toList, receipt.status),
    ("yara_severity".toList, Quoted.quoteOption receipt.yaraSeverity)]

/-- What the log tells of a probe whose sample has so many octets. -/
def entries (settings : Settings) (length : Nat) : ProbeOutcome → List Log.Entry
  | unopened description => [failureEntry description]
  | failed description => [uploadEntry settings length, failureEntry description]
  | answered status body =>
    match Submission.receipt? ⟨status, body⟩ with
    | none => [uploadEntry settings length, answerEntry status]
    | some receipt => [uploadEntry settings length, answerEntry status, receiptEntry receipt]

end ProbeOutcome

/-- A way to recognize receipts in answers. -/
abbrev Recognizer := Submission → Option JobReceipt

namespace Conclusion

/-- What is said about an answer in which receipts are recognized in some way. -/
def ofAnswer (recognize : Recognizer) (submission : Submission) : Conclusion where
  events := answerEvent submission :: ((recognize submission).map receiptEvent).toList
  pieces := [
    "Status: ".toList, Text.ofNat submission.status, ['\n'],
    "Response: ".toList, submission.body, ['\n']]

end Conclusion

namespace Probe

def concludeRecognizing (recognize : Recognizer) (run : ProbeRun) : UploadEnd → ProbeRun
  | .answered submission => conclude run (.ofAnswer recognize submission)
  | .failed error => conclude run (.ofFailure error.causes)
  | .clockOverflow => { run with clockOverflow := true }

/-- Performs a probe that recognizes receipts in some way. -/
def runRecognizing [HostMapping] [MultibyteDecoding] (recognize : Recognizer) (network : Network)
    (surroundings : Surroundings) (settings : Settings) (opened : Except OpenError Bytes)
    (sink : Sink) (script : Script) :
    ProbeRun :=
  match opened with
  | .error error => conclude { sink, script } (.ofFailure (error.causes settings.file))
  | .ok content =>
    let sink := (sink.writePieces (announcementPieces settings)).flush
    if sink.failure.isSome then { sink, script }
    else
      let (ending, script) := upload network surroundings settings content script
      let events := [settings.uploadEvent (sample settings content)]
      concludeRecognizing recognize { sink, script, events } ending

theorem concludeRecognizing_receipt? (run : ProbeRun) (ending : UploadEnd) :
    concludeRecognizing Submission.receipt? run ending = concludeUpload run ending := by
  cases ending <;> rfl

/-- A probe recognizes receipts by their text. -/
theorem runRecognizing_receipt? [HostMapping] [MultibyteDecoding] (network : Network)
    (surroundings : Surroundings) (settings : Settings) (opened : Except OpenError Bytes)
    (sink : Sink) (script : Script) :
    runRecognizing Submission.receipt? network surroundings settings opened sink script =
      run network surroundings settings opened sink script := by
  cases opened with
  | error error => rfl
  | ok content => simp only [runRecognizing, run, concludeRecognizing_receipt?]

end Probe

/-- Whether two runs of a probe differ in what the log tells of a receipt at most. -/
structure ProbeRun.DifferInReceipt (left right : ProbeRun) : Prop where
  sink : left.sink = right.sink
  script : left.script = right.script
  clockOverflow : left.clockOverflow = right.clockOverflow
  events : ∃ shared, (left.events = shared ∨ ∃ receipt, left.events = shared ++
      [Conclusion.receiptEvent receipt]) ∧
    (right.events = shared ∨ ∃ receipt, right.events = shared ++ [Conclusion.receiptEvent receipt])

namespace ProbeRun

theorem DifferInReceipt.refl (run : ProbeRun) : run.DifferInReceipt run :=
  ⟨rfl, rfl, rfl, run.events, .inl rfl, .inl rfl⟩

theorem DifferInReceipt.returned? {left right : ProbeRun} (differ : left.DifferInReceipt right) :
    left.returned? = right.returned? := by
  rw [ProbeRun.returned?, ProbeRun.returned?, differ.sink, differ.clockOverflow]

end ProbeRun

namespace Probe

theorem conclude_differInReceipt (recognize other : Recognizer) (run : ProbeRun)
    (submission : Submission) :
    (conclude run (.ofAnswer recognize submission)).DifferInReceipt
      (conclude run (.ofAnswer other submission)) := by
  have told (recognize : Recognizer) :
      (conclude run (.ofAnswer recognize submission)).events =
          run.events ++ [Conclusion.answerEvent submission] ∨
        ∃ receipt, (conclude run (.ofAnswer recognize submission)).events =
          run.events ++ [Conclusion.answerEvent submission] ++
            [Conclusion.receiptEvent receipt] := by
    simp only [conclude, Conclusion.ofAnswer]
    cases recognize submission with
    | none => exact .inl rfl
    | some receipt => exact .inr ⟨receipt, by simp⟩
  exact ⟨rfl, rfl, rfl, _, told recognize, told other⟩

theorem runRecognizing_differInReceipt [HostMapping] [MultibyteDecoding]
    (recognize other : Recognizer) (network : Network) (surroundings : Surroundings)
    (settings : Settings) (opened : Except OpenError Bytes) (sink : Sink) (script : Script) :
    (runRecognizing recognize network surroundings settings opened sink script).DifferInReceipt
      (runRecognizing other network surroundings settings opened sink script) := by
  cases opened with
  | error error => exact .refl _
  | ok content =>
      simp only [runRecognizing]
      split
      · exact .refl _
      · cases (upload network surroundings settings content script).1 with
        | answered submission => exact conclude_differInReceipt recognize other _ submission
        | failed error => exact .refl _
        | clockOverflow => exact .refl _

end Probe

namespace Circumstances

/-- The run of a probe that recognizes receipts in some way. -/
def runRecognizing [HostMapping] [MultibyteDecoding] (circumstances : Circumstances)
    (settings : Settings) (recognize : Recognizer) (sink : Sink) : ProbeRun :=
  Probe.runRecognizing recognize circumstances.network circumstances.surroundings settings
    (circumstances.opened settings) sink circumstances.script

/-- How many octets the sample holds, if it can be opened. -/
def sampleLength (circumstances : Circumstances) (settings : Settings) : Nat :=
  match circumstances.opened settings with
  | .ok content => content.length
  | .error _ => 0

/-- The forms that the server has received in a run. -/
def posted (circumstances : Circumstances) (run : ProbeRun) : List Request :=
  (run.script.received.drop circumstances.script.received.length).filter (·.method = .post)

/-- Whether a server reads in a form what the log tells of it: a file of so many octets by its name.
The octets are those of the sample. -/
def ReadsAsTold (circumstances : Circumstances) (settings : Settings) (post : Request) : Prop :=
  ∃ part data, FormPart.read? circumstances.surroundings.boundary post.body = some (part, data) ∧
    circumstances.opened settings = .ok data ∧
    data.length = circumstances.sampleLength settings ∧ part.fileName = settings.uploadFileName

variable {circumstances : Circumstances} {settings : Settings} {sink : Sink}

theorem sampleLength_of_opened {content : Bytes}
    (opened : circumstances.opened settings = .ok content) :
    circumstances.sampleLength settings = content.length := by
  rw [sampleLength, opened]

variable [HostMapping] [MultibyteDecoding]

theorem readsAsTold_of_posted (takesAll : sink.TakesAll) {post : Request}
    (posted : post ∈ circumstances.posted (circumstances.run settings sink))
    (countable : Attempt.Countable post) : circumstances.ReadsAsTold settings post := by
  cases opened : circumstances.opened settings with
  | error error =>
      rw [Circumstances.posted, (run_unopened opened takesAll).2.2.2.2.1,
        List.drop_length] at posted
      contradiction
  | ok content =>
      rw [Circumstances.posted, (run_opened opened takesAll).2.2.2.2.1] at posted
      have requested : (Attempt.ofProbe circumstances settings content).request = .ok post :=
        Attempt.request_of_posted posted
      obtain ⟨mediaType, url, authorized, mediaRead, rfl⟩ := Upload.request_eq_ok requested
      have noFeed : 0x0A ∉ mediaType := fun feed =>
        absurd (MediaType.isPrintable_of_read mediaRead 0x0A feed) (by decide)
      have body := Request.body_postForm url authorized circumstances.surroundings.boundary
        ⟨settings.field, settings.uploadFileName, mediaType⟩ content countable
      have read := @FormPart.read?_framed circumstances.surroundings.boundary
        ⟨settings.field, settings.uploadFileName, mediaType⟩ noFeed content
      rw [← body] at read
      exact ⟨_, content, read, opened, (sampleLength_of_opened opened).symm, rfl⟩

end Circumstances

namespace ProbeOutcome

variable {circumstances : Circumstances} {settings : Settings} {sink : Sink}

theorem entries_ofSubmission (submission : Submission) :
    (Conclusion.ofSubmission submission).events.map Log.Event.entry =
      answerEntry submission.status :: (submission.receipt?.map receiptEntry).toList := by
  rw [Conclusion.ofSubmission, List.map_cons]
  cases submission.receipt? <;> rfl

/-- What the log of a probe tells is told by its outcome and the length of its sample. -/
theorem entries_of_holds [HostMapping] [MultibyteDecoding] {outcome : ProbeOutcome}
    (takesAll : sink.TakesAll) (holds : Holds circumstances settings outcome) :
    (circumstances.run settings sink).events.map Log.Event.entry =
      outcome.entries settings (circumstances.sampleLength settings) := by
  cases outcome with
  | unopened description =>
      obtain ⟨error, opened, rfl⟩ := holds
      rw [(Circumstances.run_unopened opened takesAll).2.2.2.1]
      rfl
  | failed description =>
      obtain ⟨content, error, opened, ending, rfl⟩ := holds
      rw [(Circumstances.run_opened opened takesAll).2.2.2.1, ending,
        Circumstances.sampleLength_of_opened opened]
      rfl
  | answered status body =>
      obtain ⟨content, opened, ending⟩ := holds
      rw [(Circumstances.run_opened opened takesAll).2.2.2.1, ending,
        Circumstances.sampleLength_of_opened opened, Conclusion.ofUpload, List.map_cons,
        entries_ofSubmission, entries]
      cases Submission.receipt? ⟨status, body⟩ <;> rfl

end ProbeOutcome

/-- Unless the clock stops it, a probe into a sink that takes everything has one outcome, and both
its log and its output are those of this outcome: they share a description or a status. What the log
tells of the upload is what a server reads in the form. In whatever way receipts are recognized, the
output, the requests and the result are the same, and so is the log up to what it tells of one. -/
theorem log_and_output_tell_the_same [HostMapping] [MultibyteDecoding]
    (circumstances : Circumstances) (settings : Settings) (sink : Sink) (ready : sink.Ready)
    (takesAll : sink.TakesAll) (goesOn : ¬circumstances.ClockStops settings) :
    let run := circumstances.run settings sink
    (∃! outcome, ProbeOutcome.Holds circumstances settings outcome) ∧
      (∀ outcome : ProbeOutcome, outcome.Holds circumstances settings →
        run.sink.written = outcome.output settings ∧
        run.events.map Log.Event.entry =
          outcome.entries settings (circumstances.sampleLength settings)) ∧
      (∀ post ∈ circumstances.posted run, Attempt.Countable post →
        circumstances.ReadsAsTold settings post) ∧
      circumstances.runRecognizing settings Submission.receipt? sink = run ∧
      ∀ recognize,
        let other := circumstances.runRecognizing settings recognize sink
        other.DifferInReceipt run ∧ other.returned? = run.returned? := by
  intro run
  have written : ∀ outcome : ProbeOutcome, outcome.Holds circumstances settings →
      run.sink.written = outcome.output settings :=
    fun outcome holds => (ProbeOutcome.run_of_holds ready takesAll holds).2.2.1
  have recognized : circumstances.runRecognizing settings Submission.receipt? sink = run :=
    Probe.runRecognizing_receipt? ..
  refine ⟨?_, ?_, ?_, recognized, ?_⟩
  · rcases ProbeOutcome.exists_holds_of_not_clockStops goesOn with ⟨outcome, holds⟩
    refine ⟨outcome, holds, fun other alsoHolds => ?_⟩
    exact ProbeOutcome.output_injective settings
      ((written other alsoHolds).symm.trans (written outcome holds))
  · intro outcome holds
    exact ⟨written outcome holds, ProbeOutcome.entries_of_holds takesAll holds⟩
  · intro post posted countable
    exact Circumstances.readsAsTold_of_posted takesAll posted countable
  · intro recognize other
    have differ : other.DifferInReceipt run := by
      rw [← recognized]
      exact Probe.runRecognizing_differInReceipt ..
    exact ⟨differ, differ.returned?⟩

/-- A receipt is told in the log, behind the status, and a probe that takes no answer for a receipt
writes the same. -/
theorem receipt_is_told_in_log_only :
    let body := Submission.objectText
      ["\"job_id\":\"7\"", "\"status\":\"ok\"", "\"message\":\"hi\""]
    let circumstances := Circumstances.withReply
      ⟨Bytes.ofAscii ("HTTP/1.1 202 \r\ncontent-length: 43\r\n\r\n".toList ++ body), .staysOpen⟩
    let settings := Circumstances.localSettings
    let run := circumstances.run settings {}
    (({} : Sink).Ready ∧ ({} : Sink).TakesAll ∧ ¬circumstances.ClockStops settings) ∧
      run.sink.written = (ProbeOutcome.answered 202 body).output settings ∧
      run.events.map Log.Event.entry = [
        ⟨.debug, "building multipart upload".toList, [
          ("field".toList, "file".toList), ("file_name".toList, "sample.bin".toList),
          ("mime".toList, "application/octet-stream".toList), ("len".toList, "2".toList)]⟩,
        ⟨.info, "submission answered".toList, [("status".toList, "202".toList)]⟩,
        ⟨.info, "job receipt: hi".toList, [
          ("job_id".toList, "7".toList), ("status".toList, "ok".toList),
          ("yara_severity".toList, "None".toList)]⟩] ∧
      (circumstances.runRecognizing settings (fun _ => none) {}).sink = run.sink := by
  intro body circumstances settings run
  have goesOn : ¬circumstances.ClockStops settings := by
    have inTime : circumstances.InTime settings := rfl
    rintro ⟨_, _, _, _, overflows⟩
    rw [inTime] at overflows
    exact Bool.false_ne_true overflows
  have tells := log_and_output_tell_the_same circumstances settings {} Sink.ready_empty
    Sink.takesAll_empty goesOn
  have holds : (ProbeOutcome.answered 202 body).Holds circumstances settings :=
    ⟨[0x4D, 0x5A], by decide +kernel, by decide +kernel⟩
  have told := tells.2.1 _ holds
  exact ⟨⟨Sink.ready_empty, Sink.takesAll_empty, goesOn⟩, told.1,
    told.2.trans (by decide +kernel), (tells.2.2.2.2 fun _ => none).1.sink⟩

end UploadProbe
