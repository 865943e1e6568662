import UploadProbe.Sample.Walk
import UploadProbe.Sink
import UploadProbe.Upload.Sample

/-!
# Probing a server

A probe opens its sample, announces the upload, performs it, and says how it ended: with the status
and text of the answer, whatever they are, or with one line that describes the failure. Without a
sample nothing is announced, and without a complete announcement nothing is sent.

Two failures are taken not to happen and are left out, since no sample, setting or server leads to
them: that no client can be built (`Failed to build HTTP client`), and that a file which has just
been opened does not tell what it is (`Failed to read metadata of`).
-/

namespace UploadProbe

/-- What a probe says when everything is over. -/
structure Conclusion where
  events : List Log.Event
  /-- The lines, in the pieces in which they are written. -/
  pieces : List Text
deriving DecidableEq, Repr

namespace Conclusion

/-- Where the events of a probe come from. -/
def target : Text := "submit_probe::probe".toList

def answerEvent (submission : Submission) : Log.Event where
  level := .info
  target := target
  message := "submission answered".toList
  fields := [("status".toList, .plain (Text.ofNat submission.status))]

def receiptEvent (receipt : JobReceipt) : Log.Event where
  level := .info
  target := target
  message := "job receipt: ".toList ++ receipt.message
  fields := [
    ("job_id".toList, .plain receipt.jobId), ("status".toList, .plain receipt.status),
    ("yara_severity".toList, .plain (Quoted.quoteOption receipt.yaraSeverity))]

/-- What is said about an answer. -/
def ofSubmission (submission : Submission) : Conclusion where
  events := answerEvent submission :: (submission.receipt?.map receiptEvent).toList
  pieces := [
    "Status: ".toList, Text.ofNat submission.status, ['\n'],
    "Response: ".toList, submission.body, ['\n']]

/-- What is said about a failure with these causes. -/
def ofFailure (causes : List Text) : Conclusion where
  events := [{
    level := .warn
    target := target
    message := "submission failed: ".toList ++ describe causes }]
  pieces := ["Failed: ".toList, describe causes, ['\n']]

def output (conclusion : Conclusion) : Bytes :=
  Utf8.encode conclusion.pieces.flatten

end Conclusion

/-- What a probe leaves behind. -/
structure ProbeRun where
  sink : Sink
  events : List Log.Event := []
  script : Script
  /-- Whether the clock could not show the end of the timeout, which ended the program. -/
  clockOverflow : Bool := false
deriving DecidableEq, Repr

namespace Probe

variable [HostMapping] [MultibyteDecoding]

/-- The line that announces an upload, in the pieces in which it is written. -/
def announcementPieces (settings : Settings) : List Text :=
  ["Submitting job to ".toList, settings.url, "...\n".toList]

/-- The octets of the line that announces an upload. -/
def announcement (settings : Settings) : Bytes :=
  Utf8.encode (announcementPieces settings).flatten

/-- The run of a probe after its conclusion. -/
def conclude (run : ProbeRun) (conclusion : Conclusion) : ProbeRun :=
  { run with
    events := run.events ++ conclusion.events
    sink := run.sink.writePieces conclusion.pieces }

/-- The run of a probe after its upload has ended. -/
def concludeUpload (run : ProbeRun) : UploadEnd → ProbeRun
  | .answered submission => conclude run (.ofSubmission submission)
  | .failed error => conclude run (.ofFailure error.causes)
  | .clockOverflow => { run with clockOverflow := true }

/-- What a probe uploads when its sample has this content. -/
def sample (settings : Settings) (content : Bytes) : Sample where
  fileName := settings.uploadFileName
  content

/-- The upload of a probe, and what the server has of its script behind it. -/
def upload (network : Network) (surroundings : Surroundings) (settings : Settings)
    (content : Bytes) (script : Script) : UploadEnd × Script :=
  (Upload.run (Script.deliver network) surroundings settings (sample settings content)).run script

/-- Performs a probe with a sample that has been opened, or could not be. -/
def run (network : Network) (surroundings : Surroundings) (settings : Settings)
    (opened : Except OpenError Bytes) (sink : Sink) (script : Script) : ProbeRun :=
  match opened with
  | .error error => conclude { sink, script } (.ofFailure (error.causes settings.file))
  | .ok content =>
    let sink := (sink.writePieces (announcementPieces settings)).flush
    if sink.failure.isSome then { sink, script }
    else
      let (ending, script) := upload network surroundings settings content script
      let events := [settings.uploadEvent (sample settings content)]
      concludeUpload { sink, script, events } ending

end Probe

end UploadProbe
