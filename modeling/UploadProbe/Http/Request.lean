import UploadProbe.Http.Headers
import UploadProbe.Multipart
import UploadProbe.Text.Base64
import UploadProbe.Url.Sendable

/-!
# Requests

The first request of an upload posts the form to the configured URL. A user name and password in
that URL are taken out of it and sent as an authorization. A request that follows a redirection
asks for the new URL: it has no body and nothing that describes one, it tells where it comes from,
and it keeps the authorization only for the same host and port.
-/

namespace UploadProbe

inductive Method where
  | post
  | get
deriving DecidableEq, Repr

def Method.text : Method → Text
  | .post => "POST".toList
  | .get => "GET".toList

/-- A request before its body has been cut to the declared length. -/
structure Request where
  method : Method
  url : Url
  /-- The headers up to the one that names the host. -/
  headers : Headers
  offered : Bytes := []
  declared : Nat := 0
deriving DecidableEq, Repr

namespace Request

/-- What the header for the host says. -/
def hostText (url : Url) : Text :=
  url.authority.elim [] (·.hostAndPort)

def head (request : Request) : List Text :=
  (request.method.text ++ ' ' :: request.url.target ++ " HTTP/1.1".toList) ::
    (request.headers.map Header.line ++
      [Header.line ⟨HeaderName.host.text, hostText request.url⟩])

/-- The body as it is sent. -/
def body (request : Request) : Bytes :=
  request.offered.take request.declared

/-- The value of the header for a user name and a password. -/
def authorization (username : Bytes) (password : Option Bytes) : Text :=
  "Basic ".toList ++
    Base64.encode (username ++ Bytes.ascii ':' :: password.getD [])

/-- Takes a user name and password out of a URL: what is left, and the value of the header for
them. A name that is not UTF-8 stays in the URL, but a password that is not counts as none. -/
def takeCredentials (url : Url) : Url × Option Text :=
  match url.authority with
  | none => (url, none)
  | some authority =>
    let isUtf8 (octets : Bytes) := (Utf8.decode? octets).isSome
    let username := Percent.decode authority.username
    let password := (authority.password.map Percent.decode).filter isUtf8
    if isUtf8 username && !(username.isEmpty && password.isNone) then
      (url.withoutUserinfo, some (authorization username password))
    else (url, none)

/-- The headers of the request that posts a form. -/
def formHeaders (authorized : Option Text) (boundary : Boundary) (declared : Nat) : Headers :=
  (authorized.toList.map fun value => ⟨HeaderName.authorization.text, value⟩) ++
    [⟨HeaderName.contentType.text, FormPart.formType boundary⟩,
      ⟨HeaderName.contentLength.text, Text.ofNat declared⟩,
      ⟨HeaderName.accept.text, "*/*".toList⟩]

/-- The request that posts a form: data in their frame, and the length that is declared for them. -/
def postForm (url : Url) (authorized : Option Text) (boundary : Boundary) (part : FormPart)
    (data : Bytes) (length : Nat) : Request :=
  let declared := part.framedLength boundary length
  { method := .post
    url
    headers := formHeaders authorized boundary declared
    offered := part.framed boundary data
    declared }

/-- What a request tells about the URL it comes from: nothing of a secure one on the way to one
that is not, and never a user name, password or fragment. -/
def refererFrom? (previous next : Url) : Option Text :=
  if next.scheme = "http".toList && previous.scheme = "https".toList then none
  else some { previous.withoutUserinfo with fragment := none }.text

/-- The headers without those that describe a body. -/
def withoutBodyHeaders (headers : Headers) : Headers :=
  (headers.remove HeaderName.contentType.text).remove HeaderName.contentLength.text

/-- The request that follows a redirection to a URL. -/
def redirected (request : Request) (next : Url) : Request :=
  let plain := withoutBodyHeaders request.headers
  let told :=
    match refererFrom? request.url next with
    | some referer => plain.insert HeaderName.referer.text referer
    | none => plain
  { method := .get
    url := next
    headers :=
      if request.url.sameServer next then told else told.remove HeaderName.authorization.text }

end Request

end UploadProbe
