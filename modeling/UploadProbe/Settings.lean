import UploadProbe.Sample.Path
import UploadProbe.Timeout.Duration

/-!
# Settings of one upload

Five values decide what is uploaded and where. Without any instruction the sample `sample.bin` goes
to an orchestrator on the same machine.
-/

namespace UploadProbe

/-- Everything needed to perform one upload. -/
structure Settings where
  url : Text := "http://localhost:5001/submit".toList
  file : SamplePath := Bytes.ofAscii "sample.bin".toList
  /-- The name of the form field that carries the sample. -/
  field : Text := "file".toList
  mime : Text := "application/octet-stream".toList
  timeout : Option Duration := none
deriving DecidableEq, Repr

namespace Settings

/-- The name of a sample whose path gives none. -/
def fallbackFileName : Text := "sample.bin".toList

/-- The file name announced with the sample. -/
def uploadFileName (settings : Settings) : Text :=
  settings.file.fileName?.getD fallbackFileName

/-- Whether two settings ask for the same upload; paths are compared by their steps. -/
def sameAs (left right : Settings) : Bool :=
  left.url = right.url && left.file.sameSteps right.file && left.field = right.field &&
    left.mime = right.mime && left.timeout = right.timeout

end Settings

end UploadProbe
