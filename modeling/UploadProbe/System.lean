import Std.Async.DNS
import Std.Async.Select
import Std.Async.TCP
import Std.Async.Timer
import UploadProbe.Http.Server
import UploadProbe.Sample.Walk

/-!
# The system around the program

Samples are read from files, and requests are delivered over connections of the system. What the
system says about a failure is turned into the causes that the library knows.
-/

namespace UploadProbe.System

open Std.Net Std.Async

/-- Codes are words that hold numbers below this one. -/
def wordLimit : Nat := Nat.pow 2 32

/-- The number of a failure. Some of them come as what is missing to the limit of a word. -/
def errorNumber : IO.Error → Nat
  | .alreadyExists _ code _ => normal code
  | .otherError code _ => normal code
  | .resourceBusy code _ => normal code
  | .resourceVanished code _ => normal code
  | .unsupportedOperation code _ => normal code
  | .hardwareFault code _ => normal code
  | .unsatisfiedConstraints code _ => normal code
  | .illegalOperation code _ => normal code
  | .protocolError code _ => normal code
  | .timeExpired code _ => normal code
  | .interrupted _ code _ => normal code
  | .noFileOrDirectory _ code _ => normal code
  | .invalidArgument _ code _ => normal code
  | .permissionDenied _ code _ => normal code
  | .resourceExhausted _ code _ => normal code
  | .inappropriateType _ code _ => normal code
  | .noSuchThing _ code _ => normal code
  | .unexpectedEof => 0
  | .userError _ => 0
where
  normal (code : UInt32) : Nat :=
    if code.toNat < wordLimit / 2 then code.toNat else wordLimit - code.toNat

def reason (error : IO.Error) : Text :=
  match errorNumber error with
  | 13 => "Permission denied (os error 13)".toList
  | 28 => "No space left on device (os error 28)".toList
  | 32 => "Broken pipe (os error 32)".toList
  | 110 => "Connection timed out (os error 110)".toList
  | 113 => "No route to host (os error 113)".toList
  | _ => error.toString.toList

def openError (error : IO.Error) : OpenError :=
  match errorNumber error with
  | 2 => .unreachable .missing
  | 20 => .unreachable .notDirectory
  | 21 => .notRegular
  | 36 => .unreachable .nameTooLong
  | 40 => .unreachable .tooManyLinks
  | _ => .failed (reason error)

def connectError (error : IO.Error) : ConnectError :=
  match errorNumber error with
  | 101 => .networkUnreachable
  | 111 => .refused
  | _ => .failed (reason error)

def openSample (path : SamplePath) : IO (Except OpenError Bytes) := do
  if path.contains 0 then return .error .containsNul
  match String.fromUTF8? ⟨path.toArray⟩ with
  | none => return .error (.unreachable .missing)
  | some name =>
    try
      let content ← IO.FS.readBinFile name
      return .ok content.toList
    catch error => return .error (openError error)

def addresses (host : Host) : Async (List IPAddr) := do
  match host with
  | .ipv4 address =>
    let octet (weight : Nat) : UInt8 := UInt8.ofNat (address / weight % 256)
    return [.v4 (.ofParts (octet 0x1000000) (octet 0x10000) (octet 0x100) (octet 1))]
  | .ipv6 pieces =>
    match pieces.map UInt16.ofNat with
    | [a, b, c, d, e, f, g, h] => return [.v6 (.ofParts a b c d e f g h)]
    | _ => return []
  | .domain name => return (← DNS.getAddrInfo (String.ofList name) "").toList

/-- The end of a connection at an address. -/
def endpoint (address : IPAddr) (port : Nat) : SocketAddress :=
  match address with
  | .v4 address => .v4 ⟨address, UInt16.ofNat port⟩
  | .v6 address => .v6 ⟨address, UInt16.ofNat port⟩

/-- Connects to the first address that lets itself be connected to. -/
def connectFirst (port : Nat) :
    List IPAddr → ConnectError → Async (Except ConnectError TCP.Socket.Client)
  | [], error => return .error error
  | address :: rest, _ => do
    try
      let socket ← TCP.Socket.Client.mk
      socket.connect (endpoint address port)
      return .ok socket
    catch error => connectFirst port rest (connectError error)

/-- What is said about a URL that asks for an encrypted connection: the system has none to offer. -/
def noEncryption : Text := "encrypted connections are not supported".toList

/-- Connects to the server of a URL. -/
def connect (url : Url) : Async (Except ConnectError TCP.Socket.Client) := do
  if url.scheme ≠ "http".toList then return .error (.tls noEncryption)
  match url.authority with
  | none => return .error .unresolved
  | some authority =>
    try
      connectFirst (url.portOrUsual?.getD 80) (← addresses authority.host) .unresolved
    catch _ => return .error .unresolved

/-- How many octets are received at once. -/
def portion : UInt64 := 65536

/-- Receives octets until they settle the reply, the connection is closed or time is up. -/
partial def receive (socket : TCP.Socket.Client) (deadline : Nat) (received : Bytes) :
    Async Reply := do
  let now ← IO.monoMsNow
  if Framing.isSettled received || deadline ≤ now then return ⟨received, .staysOpen⟩
  let clock ← Selector.sleep (.ofNat (deadline - now))
  let arrival : Option (Option ByteArray) ← Selectable.one #[
    .case (socket.recvSelector portion) fun octets => return some octets,
    .case clock fun _ => return none]
  match arrival with
  | none => return ⟨received, .staysOpen⟩
  | some none => return ⟨received, .closes⟩
  | some (some octets) => receive socket deadline (received ++ octets.toList)

def octets (request : Request) : Bytes :=
  Utf8.encode (request.head.flatMap (· ++ FormPart.lineEnd) ++ FormPart.lineEnd) ++ request.body

/-- Delivers a request and waits for the reply until a deadline in milliseconds. -/
def deliver (deadline : Nat) (request : Request) : IO Delivery :=
  Async.block do
    match ← connect request.url with
    | .error error => return .unconnected error
    | .ok socket =>
      if request.offered.length < request.declared then return .cutShort
      try
        socket.send ⟨(octets request).toArray⟩
        return .answered (← receive socket deadline [])
      catch _ => return .answered ⟨[], .closes⟩

end UploadProbe.System
