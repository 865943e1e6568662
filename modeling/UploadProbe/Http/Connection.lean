import UploadProbe.Http.Server

/-!
# Connections that are used again

Where a response has ended and the server means to go on, the client keeps the connection for the
next request to the same server. Octets behind the response stay on it: whoever sends the next
request would find them in front of the answer. A client may give up any connection that it keeps,
because it has waited too long or because there is something to read that nobody has asked for; what
it gives up is a parameter. A connection is never used again if the server has closed it or has been
promised more than it got, or if the response has no end of its own or has not come to it.
-/

namespace UploadProbe

/-- Where a connection leads to. -/
structure Origin where
  scheme : Text
  authority : Option Authority
deriving DecidableEq, Repr

def Url.origin (url : Url) : Origin :=
  ⟨url.scheme, url.authority⟩

/-- What a client connects to: it is told nothing of a URL but where it leads. -/
def Network.reach (network : Network) (origin : Origin) : Option ConnectError :=
  network { scheme := origin.scheme, authority := origin.authority, path := .segments [[]] }

/-- A connection on which no request is waiting for its response. -/
structure Connection where
  origin : Origin
  /-- The turn in which it was made. -/
  opened : Nat
  /-- What the server has sent behind the last response. -/
  unread : Bytes := []
deriving DecidableEq, Repr

namespace ReplyHead

def connectionName : Bytes := Bytes.ofAscii "connection".toList

def closeOption : Bytes := Bytes.ofAscii "close".toList

def keepAliveOption : Bytes := Bytes.ofAscii "keep-alive".toList

/-- Whether a value that is a list has an element, in small or capital letters. -/
def lists (element value : Bytes) : Bool :=
  Framing.isReadable value &&
    (Framing.elements value).any fun listed => listed.map Bytes.lowerByte = element

/-- Whether the server means to answer further requests on the same connection. -/
def persists (head : ReplyHead) : Bool :=
  (head.values connectionName).foldl
    (fun persists value =>
      if persists then !lists closeOption value else lists keepAliveOption value)
    (head.minorVersion = 1)

/-- The status that hands the connection over to another protocol. -/
def switchingStatus : Nat := 101

end ReplyHead

/-- What stands behind the body at the front of some octets, if the body has come to an end of its
own. -/
def Framing.behind? (framing : Framing) (octets : Bytes) : Option Bytes :=
  match framing with
  | .length count => if count ≤ octets.length then some (octets.drop count) else none
  | .chunked =>
    match Chunked.read octets with
    | .complete _ behind => some behind
    | _ => none
  | .untilClose => none

namespace Reply

/-- The head of a response that has come to an end of its own, and what stands behind its body. -/
def response? (reply : Reply) : Option (ReplyHead × Bytes) :=
  match ReplyHead.read reply.raw with
  | .complete head octets =>
    match Framing.ofHead head with
    | .ok framing => (framing.behind? octets).map fun behind => (head, behind)
    | .error _ => none
  | _ => none

/-- What is left to read behind a response, if its connection can be used again. -/
def leaves? (reply : Reply) : Option Bytes :=
  match reply.response? with
  | some (head, behind) =>
    if reply.ending = .staysOpen && head.persists && head.status ≠ ReplyHead.switchingStatus then
      some behind
    else none
  | none => none

end Reply

/-- Which connections a client still keeps in a certain turn. -/
abbrev Keeping := Nat → Connection → Bool

/-- A client that gives up a connection as soon as there is anything to read on it. -/
def Keeping.noticing : Keeping := fun _ connection => connection.unread.isEmpty

/-- A client with its idle connections, and the server that answers it. -/
structure Client where
  script : Script
  idle : List Connection := []
  /-- How many requests it has been given so far. -/
  turn : Nat := 0

namespace Client

/-- A connection to where a request goes, and the others that are kept: one that is kept already, or
a new one. -/
def connect (keeps : Keeping) (network : Network) (origin : Origin) (client : Client) :
    Except ConnectError (Connection × List Connection) :=
  let kept := client.idle.filter (keeps client.turn)
  match kept.find? (·.origin = origin) with
  | some connection => .ok (connection, kept.erase connection)
  | none =>
    match network.reach origin with
    | some error => .error error
    | none => .ok ({ origin, opened := client.turn }, kept)

/-- Delivers a request. What is seen of the reply stands behind what is still unread on the
connection. -/
def deliver (keeps : Keeping) (network : Network) (request : Request) : StateM Client Delivery :=
  fun client =>
    let turn := client.turn + 1
    match client.connect keeps network request.url.origin with
    | .error error => (.unconnected error, { client with turn })
    | .ok (connection, idle) =>
      if request.offered.length < request.declared then (.cutShort, { client with idle, turn })
      else
        let (reply, script) := client.script.receive request
        let seen := { reply with raw := connection.unread ++ reply.raw }
        let idle :=
          match seen.leaves? with
          | some unread => { connection with unread } :: idle
          | none => idle
        (.answered seen, { script, idle, turn })

end Client

end UploadProbe
