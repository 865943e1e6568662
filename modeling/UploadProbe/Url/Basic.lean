import UploadProbe.Url.Percent

/-!
# URLs

A URL is kept in its parts, each already in its normal form, so that the text of a URL is their
concatenation with the separators in between.
-/

namespace UploadProbe

/-- The machine that a URL names. -/
inductive Host where
  /-- A domain name in its ASCII form; the empty name stands for no machine. -/
  | domain (name : Text)
  /-- An IPv4 address as a number of 32 bits. -/
  | ipv4 (address : Nat)
  /-- An IPv6 address as eight numbers of 16 bits. -/
  | ipv6 (pieces : List Nat)
deriving DecidableEq, Repr

/-- What stands between the two slashes and the path. -/
structure Authority where
  username : Text := []
  password : Option Text := none
  host : Host
  port : Option Nat := none
deriving DecidableEq, Repr

/-- What stands behind the authority. -/
inductive UrlPath where
  | opaquePath (text : Text)
  /-- Segments, each with a slash in front. -/
  | segments (segments : List Text)
deriving DecidableEq, Repr

/-- A URL in its parts. -/
structure Url where
  scheme : Text
  authority : Option Authority
  path : UrlPath
  query : Option Text := none
  fragment : Option Text := none
deriving DecidableEq, Repr

namespace Host

def ipv4Text (address : Nat) : Text :=
  Text.joinWith ['.'] ([address / 0x1000000, address / 0x10000 % 256,
    address / 0x100 % 256, address % 256].map Text.ofNat)

/-- The length of the run of zeros that a list begins with. -/
def zeroRun (pieces : List Nat) : Nat :=
  (pieces.takeWhile (· = 0)).length

/-- Where the first of the longest runs of at least two zeros begins and how long it is. -/
def longestZeroRun (pieces : List Nat) : Option (Nat × Nat) :=
  ((List.range pieces.length).map fun start => (start, zeroRun (pieces.drop start))).foldl
    (fun best run =>
      if 2 ≤ run.2 && best.all (·.2 < run.2) then some run else best) none

/-- The pieces of an IPv6 address with colons between them, the longest run of zeros left out. -/
def ipv6Text (pieces : List Nat) : Text :=
  let written (some : List Nat) := Text.joinWith [':'] (some.map Text.ofNatHex)
  match longestZeroRun pieces with
  | none => written pieces
  | some (start, length) =>
    written (pieces.take start) ++ [':', ':'] ++ written (pieces.drop (start + length))

def text : Host → Text
  | domain name => name
  | ipv4 address => ipv4Text address
  | ipv6 pieces => '[' :: ipv6Text pieces ++ [']']

def isEmpty : Host → Bool
  | domain name => name.isEmpty
  | _ => false

end Host

namespace Authority

/-- The name and password in front of the host, with the sign that separates them from it. -/
def userinfoText (authority : Authority) : Text :=
  if authority.username.isEmpty && authority.password.isNone then []
  else
    authority.username ++ (authority.password.elim [] (':' :: ·)) ++ ['@']

/-- The host and, unless it is the usual one, the port. -/
def hostAndPort (authority : Authority) : Text :=
  authority.host.text ++ authority.port.elim [] fun port => ':' :: Text.ofNat port

def text (authority : Authority) : Text :=
  authority.userinfoText ++ authority.hostAndPort

end Authority

namespace UrlPath

def text : UrlPath → Text
  | opaquePath text => text
  | segments parts => parts.flatMap ('/' :: ·)

end UrlPath

namespace Url

/-- What keeps a path that begins with an empty segment from being read as an authority. -/
def pathGuard (url : Url) : Text :=
  match url.authority, url.path with
  | none, .segments ([] :: _ :: _) => "/.".toList
  | _, _ => []

def text (url : Url) : Text :=
  url.scheme ++ ':' :: url.authority.elim [] (fun authority => '/' :: '/' :: authority.text) ++
    url.pathGuard ++ url.path.text ++ url.query.elim [] ('?' :: ·) ++
    url.fragment.elim [] ('#' :: ·)

/-- The path and query, as a request names what it wants. -/
def target (url : Url) : Text :=
  url.path.text ++ url.query.elim [] ('?' :: ·)

def hasHost (url : Url) : Bool :=
  url.authority.any fun authority => !authority.host.isEmpty

def withoutUserinfo (url : Url) : Url :=
  { url with
    authority := url.authority.map fun authority =>
      { authority with username := [], password := none } }

/-- The port that a scheme stands for. -/
def usualPort? (scheme : Text) : Option Nat :=
  if scheme = "http".toList || scheme = "ws".toList then some 80
  else if scheme = "https".toList || scheme = "wss".toList then some 443
  else if scheme = "ftp".toList then some 21
  else none

end Url

end UploadProbe
