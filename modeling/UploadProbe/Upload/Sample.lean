import UploadProbe.Log.Event
import UploadProbe.Settings
import UploadProbe.Upload.Exchange

/-!
# Uploading a sample

The media type is read first, then the URL, so that nothing is sent before both are valid; then the
form is posted, redirections are followed, and the last reply is read. One event tells what is
being uploaded, whatever comes of it.
-/

namespace UploadProbe

/-- A sample that is ready to be uploaded. -/
structure Sample where
  fileName : Text
  content : Bytes
  length : Nat := content.length
deriving DecidableEq, Repr

/-- What an upload finds around it. -/
structure Surroundings where
  /-- What the clock shows when the request is about to be sent. -/
  clock : Duration
  /-- The boundary that has been drawn for the form. -/
  boundary : Boundary
deriving DecidableEq, Repr

/-- The event that tells what is being uploaded. -/
def Settings.uploadEvent (settings : Settings) (sample : Sample) : Log.Event where
  level := .debug
  target := "submit_probe::api".toList
  message := "building multipart upload".toList
  fields := [
    ("field".toList, .plain settings.field), ("file_name".toList, .quoted sample.fileName),
    ("mime".toList, .plain settings.mime), ("len".toList, .plain (Text.ofNat sample.length))]

namespace Upload

variable [HostMapping] [MultibyteDecoding]

/-- The request that uploads a sample, if the media type and the URL are valid. -/
def request (boundary : Boundary) (settings : Settings) (sample : Sample) :
    Except UploadError Request :=
  match MediaType.read settings.mime with
  | .error error => .error (.invalidMediaType settings.mime error)
  | .ok mediaType =>
    match Url.read settings.url with
    | .error error => .error (.invalidUrl error)
    | .ok url =>
      if url.hasHost then
        let (url, authorized) := Request.takeCredentials url
        let part : FormPart := ⟨settings.field, sample.fileName, mediaType⟩
        .ok (Request.postForm url authorized boundary part sample.content sample.length)
      else .error (.scheme url)

/-- The clock shows seconds below this number. -/
def clockLimit : Nat := Nat.pow 2 63

/-- Whether the end of a timeout lies beyond what the clock can show. -/
def overflows (clock : Duration) (timeout : Option Duration) : Bool :=
  timeout.any fun timeout =>
    clockLimit * nanosecondsPerSecond ≤ clock.toNanoseconds + timeout.toNanoseconds

/-- The time that passes from a request until the end of its answer, in nanoseconds. A server is
taken to answer at once or never, and how long it takes is not part of what it is: of all timeouts,
only one of no time at all ends an upload whose server answers. -/
def answerTime : Nat := 0

/-- Whether a timeout ends before there can be an answer. -/
def isOver (timeout : Option Duration) : Bool :=
  timeout.any fun timeout => timeout.toNanoseconds ≤ answerTime

/-- Sends a request and reads what is answered. -/
def exchange {m : Type → Type} [Monad m] (deliver : Request → m Delivery) (request : Request) :
    m (Except UploadError Submission) := do
  if !request.url.isWebScheme then
    return .error (Exchange.unsent request.url request (.scheme request.url))
  else if !request.url.isSendable then
    return .error (Exchange.unsent request.url request (.unsendable request.url))
  else
    match ← Exchange.follow deliver request.url Exchange.redirectionLimit request with
    | .error error => return .error error
    | .ok response => return response.submission

def run {m : Type → Type} [Monad m] (deliver : Request → m Delivery) (surroundings : Surroundings)
    (settings : Settings) (sample : Sample) : m UploadEnd := do
  match request surroundings.boundary settings sample with
  | .error error => return .failed error
  | .ok request =>
    if overflows surroundings.clock settings.timeout then return .clockOverflow
    else if isOver settings.timeout then return .failed (.timedOut request.url)
    else
      match ← exchange deliver request with
      | .ok submission => return .answered submission
      | .error error => return .failed error

end Upload

end UploadProbe
