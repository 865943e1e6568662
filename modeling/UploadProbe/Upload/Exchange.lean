import UploadProbe.Charset.Decoding
import UploadProbe.Upload.Outcome

/-!
# Requests and replies of one upload

A request is delivered, the head of its reply is read, and as long as that head redirects to a URL
that can be asked, a further request follows. The body of the last reply is read to its end. The
delivery is a parameter, so that a scripted server and a real one are met by the same steps.
-/

namespace UploadProbe

/-- A reply of which the head has been read. -/
structure Response where
  head : ReplyHead
  framing : Framing
  octets : Bytes
  ending : Ending
deriving DecidableEq, Repr

variable [HostMapping] [MultibyteDecoding]

namespace Response

def locationName : Bytes := Bytes.ofAscii "location".toList

def contentTypeName : Bytes := Bytes.ofAscii "content-type".toList

/-- Reads the head of a reply to a request for `url`, the URL of the upload. -/
def ofReply (url : Url) (reply : Reply) : Except UploadError Response :=
  match ReplyHead.read reply.raw with
  | .refused error => .error (.head url error)
  | .partway _ =>
    match reply.ending with
    | .closes => .error (.closedEarly url)
    | .staysOpen => .error (.timedOut url)
  | .complete head octets =>
    match Framing.ofHead head with
    | .error error => .error (.framing url error)
    | .ok framing => .ok { head, framing, octets, ending := reply.ending }

/-- Whether the status sends the client elsewhere. The statuses 307 and 308 ask for the same request
again, and a body that has been sent once cannot be sent again. -/
def redirects (method : Method) (status : Nat) : Bool :=
  match method with
  | .post => [301, 302, 303].contains status
  | .get => [301, 302, 303, 307, 308].contains status

/-- The URL that a response to a request redirects to, if there is one that a request can carry. -/
def redirection? (request : Request) (response : Response) : Option Url := do
  if redirects request.method response.head.status then
    let location ← (response.head.values locationName).head?
    let reference ← Utf8.decode? location
    match request.url.resolve reference with
    | .ok url => if url.isSendable then some url else none
    | .error _ => none
  else none

/-- What was said in a response. -/
def submission (response : Response) : Except UploadError Submission :=
  match response.framing.readBody response.octets response.ending with
  | .ok octets =>
    .ok ⟨response.head.status,
      Charset.bodyText (response.head.values contentTypeName).head? octets⟩
  | .error error => .error (.body error)

end Response

namespace Exchange

/-- How many octets of a body are handed over at once. -/
def pieceLength : Nat := 8192

/-- Whether there is a second piece, which needs somebody who takes it. -/
def hasSecondPiece (request : Request) : Bool :=
  pieceLength < request.declared && pieceLength < request.offered.length

/-- Whether a piece is left when the declared length has been reached within another one, so that
nobody takes it. -/
def leavesPiece (request : Request) : Bool :=
  pieceLength < request.declared && request.declared % pieceLength ≠ 0 &&
    (request.declared / pieceLength + 1) * pieceLength < request.offered.length

/-- The failure of a request that never left. -/
def unsent (url : Url) (request : Request) (error : UploadError) : UploadError :=
  if hasSecondPiece request then .bodyNotTaken url else error

/-- Delivers a request and reads the head of the reply. -/
def ask {m : Type → Type} [Monad m] (deliver : Request → m Delivery) (url : Url)
    (request : Request) : m (Except UploadError Response) := do
  match ← deliver request with
  | .unconnected error => return .error (unsent url request (.connect url error))
  | .cutShort => return .error (.bodyTooShort url (request.declared - request.offered.length))
  | .answered reply =>
    if leavesPiece request then return .error (.bodyNotTaken url)
    else return Response.ofReply url reply

/-- Asks, and follows at most so many redirections. -/
def follow {m : Type → Type} [Monad m] (deliver : Request → m Delivery) (url : Url) :
    (redirections : Nat) → Request → m (Except UploadError Response)
  | redirections, request => do
    match ← ask deliver url request with
    | .error error => return .error error
    | .ok response =>
      match response.redirection? request with
      | none => return .ok response
      | some next =>
        match redirections with
        | 0 => return .error (.tooManyRedirects url)
        | redirections + 1 =>
          if next.isWebScheme then follow deliver url redirections (request.redirected next)
          else return .error (.scheme url)

def redirectionLimit : Nat := 9

end Exchange

end UploadProbe
