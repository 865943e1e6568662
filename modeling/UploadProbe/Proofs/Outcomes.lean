import Mathlib
import UploadProbe.Libraries
import UploadProbe.Proofs.ProbeSteps

/-!
# What a probe says

A probe whose sink takes everything says one of three things: that it could not open its sample,
or, behind its announcement, what the server answered or why there is no answer. Which of them it
says is decided by the sample and the upload alone, and what it says tells how it ended: a text in
an answer that looks like another outcome cannot be taken for it, because the lines in front of it
are fixed.
-/

namespace UploadProbe

namespace Text

theorem ofNat_injective : Function.Injective ofNat := by
  intro left right same
  have read := congrArg (Nat.ofDigitChars 10 · 0) same
  simpa only [ofNat, Nat.ofDigitChars_ten_toDigits] using read

theorem newline_notMem_ofNat (number : Nat) : '\n' ∉ ofNat number := by
  intro mem
  have digit := Nat.isDigit_of_mem_toDigits (by decide) (by decide) mem
  exact absurd digit (by decide)

/-- What stands in front of the first mark and behind it is determined by the whole. -/
theorem append_mark_inj {mark : Char} {left right leftRest rightRest : Text}
    (unmarkedLeft : mark ∉ left) (unmarkedRight : mark ∉ right)
    (same : left ++ mark :: leftRest = right ++ mark :: rightRest) :
    left = right ∧ leftRest = rightRest := by
  induction left generalizing right with
  | nil =>
      cases right with
      | nil => exact ⟨rfl, (List.cons.inj same).2⟩
      | cons c right =>
          exact absurd (List.mem_cons.mpr (Or.inl (List.cons.inj same).1)) unmarkedRight
  | cons c left inductionHypothesis =>
      cases right with
      | nil => exact absurd (List.mem_cons.mpr (Or.inl (List.cons.inj same).1.symm)) unmarkedLeft
      | cons d right =>
          rcases List.cons.inj same with ⟨sameFirst, sameRest⟩
          rcases inductionHypothesis
              (fun mem => unmarkedLeft (List.mem_cons_of_mem c mem))
              (fun mem => unmarkedRight (List.mem_cons_of_mem d mem)) sameRest with
            ⟨sameLeft, sameBehind⟩
          exact ⟨by rw [sameFirst, sameLeft], sameBehind⟩

end Text

/-- How a probe ends. -/
inductive ProbeOutcome where
  /-- The sample could not be opened. -/
  | unopened (description : Text)
  /-- The server answered. -/
  | answered (status : Nat) (body : Text)
  /-- The upload failed. -/
  | failed (description : Text)
deriving DecidableEq, Repr

namespace ProbeOutcome

/-- Whether a probe ends in a certain way: by what comes of opening the sample and uploading it. -/
def Holds [HostMapping] [MultibyteDecoding] (circumstances : Circumstances) (settings : Settings) :
    ProbeOutcome → Prop
  | unopened description =>
      ∃ error, circumstances.opened settings = .error error ∧
        description = describe (error.causes settings.file)
  | answered status body =>
      ∃ content, circumstances.opened settings = .ok content ∧
        (circumstances.uploaded settings content).1 = .answered ⟨status, body⟩
  | failed description =>
      ∃ content error, circumstances.opened settings = .ok content ∧
        (circumstances.uploaded settings content).1 = .failed error ∧
        description = describe error.causes

def announcement (settings : Settings) : Text :=
  "Submitting job to ".toList ++ settings.url ++ "...\n".toList

def failureLine (description : Text) : Text :=
  "Failed: ".toList ++ description ++ "\n".toList

def answerLines (status : Nat) (body : Text) : Text :=
  "Status: ".toList ++ Text.ofNat status ++ "\nResponse: ".toList ++ body ++ "\n".toList

def text (settings : Settings) : ProbeOutcome → Text
  | unopened description => failureLine description
  | answered status body => announcement settings ++ answerLines status body
  | failed description => announcement settings ++ failureLine description

def output (settings : Settings) (outcome : ProbeOutcome) : Bytes :=
  Utf8.encode (outcome.text settings)

/-- Where a probe flushes what it has written: behind its announcement, if there is one. -/
def flushes (settings : Settings) : ProbeOutcome → List Nat
  | unopened _ => []
  | _ => [(Utf8.encode (announcement settings)).length]

theorem failureLine_injective : Function.Injective failureLine := by
  intro left right same
  unfold failureLine at same
  simpa using same

theorem answerLines_inj {leftStatus rightStatus : Nat} {leftBody rightBody : Text}
    (same : answerLines leftStatus leftBody = answerLines rightStatus rightBody) :
    leftStatus = rightStatus ∧ leftBody = rightBody := by
  unfold answerLines at same
  simp only [List.append_assoc, List.append_cancel_left_eq] at same
  rcases Text.append_mark_inj (Text.newline_notMem_ofNat leftStatus)
      (Text.newline_notMem_ofNat rightStatus) same with
    ⟨sameStatus, sameRest⟩
  exact ⟨Text.ofNat_injective sameStatus, by simpa using sameRest⟩

/-- The line about a failure is no beginning of the lines about an answer. -/
theorem failureLine_ne_answerLines (description : Text) (status : Nat) (body : Text) :
    failureLine description ≠ answerLines status body := by
  unfold failureLine answerLines
  simp

theorem failureLine_ne_announcement_append (description : Text) (settings : Settings)
    (lines : Text) : failureLine description ≠ announcement settings ++ lines := by
  unfold failureLine announcement
  simp

/-- With the same settings, different outcomes are told differently. -/
theorem text_injective (settings : Settings) : Function.Injective (text settings) := by
  intro left right same
  cases left with
  | unopened description =>
      cases right with
      | unopened other => rw [failureLine_injective same]
      | answered status body => exact absurd same (failureLine_ne_announcement_append _ _ _)
      | failed other => exact absurd same (failureLine_ne_announcement_append _ _ _)
  | answered status body =>
      cases right with
      | unopened other => exact absurd same.symm (failureLine_ne_announcement_append _ _ _)
      | answered otherStatus otherBody =>
          rcases answerLines_inj (List.append_cancel_left same) with ⟨rfl, rfl⟩
          rfl
      | failed other =>
          exact absurd (List.append_cancel_left same).symm (failureLine_ne_answerLines _ _ _)
  | failed description =>
      cases right with
      | unopened other => exact absurd same.symm (failureLine_ne_announcement_append _ _ _)
      | answered status body =>
          exact absurd (List.append_cancel_left same) (failureLine_ne_answerLines _ _ _)
      | failed other => rw [failureLine_injective (List.append_cancel_left same)]

theorem output_injective (settings : Settings) : Function.Injective (output settings) :=
  Utf8.encode_injective.comp (text_injective settings)

theorem announcement_encode (settings : Settings) :
    Probe.announcement settings = Utf8.encode (announcement settings) := by
  unfold Probe.announcement Probe.announcementPieces announcement
  simp only [List.flatten_cons, List.flatten_nil, List.append_nil, List.append_assoc]

theorem output_ofFailure (causes : List Text) :
    (Conclusion.ofFailure causes).output = Utf8.encode (failureLine (describe causes)) := by
  unfold Conclusion.output Conclusion.ofFailure failureLine
  simp only [List.flatten_cons, List.flatten_nil, List.append_nil, List.append_assoc]
  rfl

theorem output_ofSubmission (submission : Submission) :
    (Conclusion.ofSubmission submission).output =
      Utf8.encode (answerLines submission.status submission.body) := by
  unfold Conclusion.output Conclusion.ofSubmission answerLines
  simp only [List.flatten_cons, List.flatten_nil, List.append_nil, List.append_assoc]
  rfl

variable [HostMapping] [MultibyteDecoding]
variable {circumstances : Circumstances} {settings : Settings}

theorem exists_holds (inTime : circumstances.InTime settings) :
    ∃ outcome, Holds circumstances settings outcome := by
  cases opened : circumstances.opened settings with
  | error error => exact ⟨unopened _, error, opened, rfl⟩
  | ok content =>
      cases ending : (circumstances.uploaded settings content).1 with
      | answered submission => exact ⟨answered _ _, content, opened, ending⟩
      | failed error => exact ⟨failed _, content, error, opened, ending, rfl⟩
      | clockOverflow =>
          have overflow := ((Upload.run_eq_clockOverflow_iff ..).mp ending).2
          rw [inTime] at overflow
          exact absurd overflow Bool.false_ne_true

/-- What is true of a run whose probe ends in some way, with a sink that takes everything. -/
theorem run_of_holds {sink : Sink} {outcome : ProbeOutcome} (ready : sink.Ready)
    (takesAll : sink.TakesAll) (holds : Holds circumstances settings outcome) :
    let run := circumstances.run settings sink
    run.sink.failure = none ∧ run.clockOverflow = false ∧
      run.sink.written = outcome.output settings ∧
      run.sink.flushedAt = outcome.flushes settings ∧
      ((∃ description, outcome = unopened description) → run.script = circumstances.script) := by
  cases outcome with
  | unopened description =>
      rcases holds with ⟨error, opened, rfl⟩
      rcases Circumstances.run_unopened opened takesAll with
        ⟨stillTakes, written, flushedAt, -, script, clock⟩
      refine ⟨stillTakes.intact, clock, ?_, ?_, fun _ => script⟩
      · rw [written, ready.written, output_ofFailure]
        rfl
      · rw [flushedAt, ready.flushedAt]
        rfl
  | answered status body =>
      rcases holds with ⟨content, opened, ending⟩
      rcases Circumstances.run_opened opened takesAll with
        ⟨stillTakes, written, flushedAt, -, -, clock⟩
      rw [ending] at written clock
      refine ⟨stillTakes.intact, clock, ?_, ?_, ?_⟩
      · rw [written, ready.written, Conclusion.ofUpload, output_ofSubmission, announcement_encode,
          List.nil_append, ← Utf8.encode_append]
        rfl
      · rw [flushedAt, ready.flushedAt, ready.written, announcement_encode]
        rfl
      · rintro ⟨_, impossible⟩
        contradiction
  | failed description =>
      rcases holds with ⟨content, error, opened, ending, rfl⟩
      rcases Circumstances.run_opened opened takesAll with
        ⟨stillTakes, written, flushedAt, -, -, clock⟩
      rw [ending] at written clock
      refine ⟨stillTakes.intact, clock, ?_, ?_, ?_⟩
      · rw [written, ready.written, Conclusion.ofUpload, output_ofFailure, announcement_encode,
          List.nil_append, ← Utf8.encode_append]
        rfl
      · rw [flushedAt, ready.flushedAt, ready.written, announcement_encode]
        rfl
      · rintro ⟨_, impossible⟩
        contradiction

/-- A probe has written what it writes about an outcome exactly if it has ended so. -/
theorem written_eq_output_iff {sink : Sink} (ready : sink.Ready) (takesAll : sink.TakesAll)
    (inTime : circumstances.InTime settings) (outcome : ProbeOutcome) :
    (circumstances.run settings sink).sink.written = outcome.output settings ↔
      Holds circumstances settings outcome := by
  rcases exists_holds inTime with ⟨ended, holds⟩
  have written := (run_of_holds ready takesAll holds).2.2.1
  constructor
  · intro same
    rw [written] at same
    rw [← output_injective settings same]
    exact holds
  · intro alsoHolds
    exact (run_of_holds ready takesAll alsoHolds).2.2.1

end ProbeOutcome

/-- With a sink that takes everything and a timeout whose end the clock can show, a probe returns
without a failure. It says that it could not open its sample, and then it has sent nothing, used
no reply and flushed nothing; or it announces its upload to the configured URL, flushes once behind
the announcement, and says what the upload came to: the status and the text of the answer, whatever
they are, or the description of the failure. Each form is there exactly when the probe ends so, and
with the same settings two probes that say the same have ended in the same way. -/
theorem probe_output_tells_outcome [HostMapping] [MultibyteDecoding]
    (circumstances : Circumstances) (settings : Settings) (sink : Sink) (ready : sink.Ready)
    (takesAll : sink.TakesAll) (inTime : circumstances.InTime settings) :
    let run := circumstances.run settings sink
    run.sink.failure = none ∧ run.clockOverflow = false ∧
      (∃! outcome, ProbeOutcome.Holds circumstances settings outcome) ∧
      (∀ outcome : ProbeOutcome,
        (run.sink.written = outcome.output settings ↔
          outcome.Holds circumstances settings) ∧
        (outcome.Holds circumstances settings →
          run.sink.flushedAt = outcome.flushes settings ∧
          ((∃ description, outcome = .unopened description) →
            run.script = circumstances.script))) ∧
      ∀ other : Circumstances, other.InTime settings →
        (other.run settings sink).sink.written = run.sink.written →
        ∀ outcome : ProbeOutcome,
          outcome.Holds other settings ↔ outcome.Holds circumstances settings := by
  rcases ProbeOutcome.exists_holds inTime with ⟨ended, holds⟩
  rcases ProbeOutcome.run_of_holds ready takesAll holds with ⟨failure, clock, written, -, -⟩
  have tells := ProbeOutcome.written_eq_output_iff ready takesAll inTime
  refine ⟨failure, clock, ⟨ended, holds, ?_⟩, ?_, ?_⟩
  · intro outcome alsoHolds
    have alsoWritten := (tells outcome).mpr alsoHolds
    exact ProbeOutcome.output_injective settings (alsoWritten.symm.trans written)
  · intro outcome
    refine ⟨tells outcome, ?_⟩
    intro alsoHolds
    exact (ProbeOutcome.run_of_holds ready takesAll alsoHolds).2.2.2
  · intro other otherInTime same outcome
    rw [← tells outcome, ← same,
      ProbeOutcome.written_eq_output_iff ready takesAll otherInTime outcome]

/-- An answer whose text looks like a failure is told as an answer. -/
theorem probe_output_tells_answer :
    let circumstances := Circumstances.withReply
      ⟨Bytes.ofAscii "HTTP/1.1 200 OK\r\ncontent-length: 11\r\n\r\nOK\nFailed: ".toList, .staysOpen⟩
    let settings := Circumstances.localSettings
    let outcome := ProbeOutcome.answered 200 "OK\nFailed: ".toList
    (({} : Sink).Ready ∧ ({} : Sink).TakesAll ∧ circumstances.InTime settings) ∧
      (circumstances.run settings {}).sink.written = outcome.output settings := by
  intro circumstances settings outcome
  have inTime : circumstances.InTime settings := rfl
  have tells := probe_output_tells_outcome circumstances settings {} Sink.ready_empty
    Sink.takesAll_empty inTime
  refine ⟨⟨Sink.ready_empty, Sink.takesAll_empty, inTime⟩, ?_⟩
  exact (tells.2.2.2.1 outcome).1.mpr ⟨[0x4D, 0x5A], by decide +kernel, by decide +kernel⟩

end UploadProbe
