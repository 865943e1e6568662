import UploadProbe.Failure
import UploadProbe.Http.Server
import UploadProbe.MediaType
import UploadProbe.Receipt
import UploadProbe.Url.Parser

/-!
# How an upload ends

An upload that is answered ends with a status and a text, whatever the status is. Every other end is
a failure with a cause. A cause quotes the causes under it, and each of those is listed again behind
it.
-/

namespace UploadProbe

/-- What a server said about a sample. -/
structure Submission where
  status : Nat
  body : Text
deriving DecidableEq, Repr

/-- The receipt in the answer, if the answer is one. -/
def Submission.receipt? (submission : Submission) : Option JobReceipt :=
  JobReceipt.read? submission.body

/-- Why an upload was not answered. -/
inductive UploadError where
  | invalidMediaType (mime : Text) (error : MediaTypeError)
  | invalidUrl (error : UrlError)
  /-- The scheme is not one of the web, or there is no machine to send anything to. -/
  | scheme (url : Url)
  | unsendable (url : Url)
  | bodyNotTaken (url : Url)
  | connect (url : Url) (error : ConnectError)
  /-- The body ended so many octets before the declared length. -/
  | bodyTooShort (url : Url) (missing : Nat)
  | timedOut (url : Url)
  /-- The server closed the connection within the head of its reply. -/
  | closedEarly (url : Url)
  | head (url : Url) (error : HeadError)
  | framing (url : Url) (error : FramingError)
  | tooManyRedirects (url : Url)
  | body (error : BodyError)
deriving DecidableEq, Repr

namespace UploadError

/-- The texts of causes of which each quotes those under it. -/
def nested : List Text → List Text
  | [] => []
  | layer :: layers => Text.joinWith causeSeparator (layer :: layers) :: nested layers

/-- A layer that names the URL of the upload. -/
def about (layer : String) (url : Url) : Text :=
  layer.toList ++ " for url (".toList ++ url.text ++ ")".toList

/-- The layer of a request that was not answered. -/
def sending (url : Url) : Text :=
  about "error sending request" url

/-- The layer that stands for what could not be sent at all. -/
def building : Text := "builder error".toList

/-- What is said when time is up. -/
def timeUp : Text := "operation timed out".toList

/-- The layers under a body that was not read. -/
def bodyLayers : BodyError → List Text
  | .timedOut => ["error decoding response body".toList, timeUp]
  | .endsEarly => reading "end of file before message length reached".toList
  | .endsBetweenChunks => reading "unexpected EOF during chunk size line".toList
  | .chunk error => reading error.message
where
  /-- The layers around what was found wrong while reading. -/
  reading (found : Text) : List Text :=
    ["request or response body error".toList, "error reading a body from connection".toList, found]

/-- What was tried when the upload failed. -/
def purpose : UploadError → Text
  | .invalidMediaType mime _ => "Invalid content type `".toList ++ mime ++ "`".toList
  | .body _ => "Failed to read submit response body".toList
  | _ => "Failed to send submit request".toList

def layers : UploadError → List Text
  | .invalidMediaType _ error => [building, "mime parse error: ".toList ++ error.message]
  | .invalidUrl error => [building, error.message]
  | .scheme url => [about "builder error" url, "URL scheme is not allowed".toList]
  | .unsendable url => [about "builder error" url, "Parsed Url is not a valid Uri".toList]
  | .bodyNotTaken url => [about "request or response body error" url, "channel closed".toList]
  | .connect url error => sending url :: "error trying to connect".toList :: error.layers
  | .bodyTooShort url missing =>
    [sending url, "user body write aborted".toList,
      "early end, expected ".toList ++ Text.ofNat missing ++ " more bytes".toList]
  | .timedOut url => [sending url, timeUp]
  | .closedEarly url => [sending url, "connection closed before message completed".toList]
  | .head url error => [sending url, error.message]
  | .framing url error => [sending url, error.message]
  | .tooManyRedirects url =>
    [about "error following redirect" url, "too many redirects".toList]
  | .body error => bodyLayers error

/-- The causes of the failure, outermost first. -/
def causes (error : UploadError) : List Text :=
  error.purpose :: nested error.layers

end UploadError

/-- How an upload ends. -/
inductive UploadEnd where
  | answered (submission : Submission)
  | failed (error : UploadError)
  /-- The end of the timeout lies beyond what the clock can show, which ends the program. -/
  | clockOverflow
deriving DecidableEq, Repr

end UploadProbe
