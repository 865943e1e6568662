import UploadProbe.Http.Framing
import UploadProbe.Http.Request

/-!
# Servers and the way to them

A request is delivered to a server, which answers it with some octets and then closes the connection
or leaves it open; or no connection is made at all. A scripted server answers the requests that
reach it with the replies of a list, in order, and keeps what it has received.
-/

namespace UploadProbe

/-- Why no connection is made. -/
inductive ConnectError where
  /-- There is no way to the network of the address. -/
  | networkUnreachable
  | refused
  | unresolved
  /-- The two sides come to no encrypted connection. -/
  | tls (reason : Text)
  | failed (reason : Text)
deriving DecidableEq, Repr

def ConnectError.layers : ConnectError → List Text
  | .networkUnreachable =>
    ["tcp connect error".toList, "Network is unreachable (os error 101)".toList]
  | .refused => ["tcp connect error".toList, "Connection refused (os error 111)".toList]
  | .unresolved =>
    ["dns error".toList,
      "failed to lookup address information: Temporary failure in name resolution".toList]
  | .tls reason => [reason]
  | .failed reason => ["tcp connect error".toList, reason]

/-- What a server sends, and what it does with the connection then. -/
structure Reply where
  raw : Bytes
  ending : Ending := .staysOpen
deriving DecidableEq, Repr

/-- What becomes of a request. -/
inductive Delivery where
  | unconnected (error : ConnectError)
  /-- Its body ended before the declared length, so the connection was given up. -/
  | cutShort
  | answered (reply : Reply)
deriving DecidableEq, Repr

/-- What stands between a machine and the server of a URL, if anything does. -/
abbrev Network := Url → Option ConnectError

namespace Network

def isolated : Network := fun _ => some .networkUnreachable

def loopbackAddress : Nat := 0x7F000001

/-- A machine on which one server listens, at a port of the machine's own address, for requests
that are not encrypted. -/
def loopback (port : Nat) (url : Url) : Option ConnectError :=
  match url.authority.map Authority.host with
  | some (.ipv4 address) =>
    if address ≠ loopbackAddress then some .networkUnreachable
    else if url.scheme = "http".toList && url.portOrUsual? = some port then none
    else some .refused
  | some (.domain _) => some .unresolved
  | _ => some .networkUnreachable

end Network

/-- A server that answers with the replies of a list. -/
structure Script where
  replies : List Reply
  /-- The requests that were received whole, the first one first. -/
  received : List Request := []
deriving DecidableEq, Repr

namespace Script

/-- A server without any reply left closes the connection and says nothing. -/
def exhausted : Reply := ⟨[], .closes⟩

/-- The server after one more request. -/
def receive (script : Script) (request : Request) : Reply × Script :=
  let received := script.received ++ [request]
  match script.replies with
  | [] => (exhausted, { script with received })
  | reply :: replies => (reply, { replies, received })

def deliver (network : Network) (request : Request) : StateM Script Delivery := fun script =>
  match network request.url with
  | some error => (.unconnected error, script)
  | none =>
    if request.offered.length < request.declared then (.cutShort, script)
    else
      let (reply, script) := script.receive request
      (.answered reply, script)

end Script

end UploadProbe
