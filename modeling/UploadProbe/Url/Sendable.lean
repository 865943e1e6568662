import UploadProbe.Url.Parser

/-!
# URLs that a request can carry

A request names its URL in a narrower form than URLs have: it is not too long, its scheme has a
limited length, and its host holds only the characters that may stand between two slashes. A URL
without any authority is taken for one that is nothing but an authority.
-/

namespace UploadProbe.Url

/-- The number of characters that a URL in a request stays below. -/
def sendableLength : Nat := 65535

/-- The greatest length of a scheme in a request. -/
def sendableSchemeLength : Nat := 64

/-- The characters that may stand in an authority. -/
def isAuthorityChar (c : Char) : Bool :=
  c.isAlphanum || ['!', '$', '&', '\'', '(', ')', '*', '+', ',', '-', '.', ':', ';', '=', '@', '[',
    ']', '_', '~'].contains c

/-- Whether a text can be read as nothing but an authority. -/
def isBareAuthority (text : Text) : Bool :=
  let behindUserinfo := (text.reverse.takeWhile (· ≠ '@')).reverse
  text.all (fun c => isAuthorityChar c || c = '%') && !text.contains '[' && !text.contains ']' &&
    !behindUserinfo.contains '%' && behindUserinfo.count ':' ≤ 1 &&
    (!text.contains '@' || !behindUserinfo.isEmpty)

/-- Whether a request can carry the URL. -/
def isSendable (url : Url) : Bool :=
  url.text.length < sendableLength &&
    match url.authority with
    | some authority =>
      url.scheme.length ≤ sendableSchemeLength && !authority.host.isEmpty &&
        authority.host.text.all isAuthorityChar
    | none => isBareAuthority url.text

def isWebScheme (url : Url) : Bool :=
  url.scheme = "http".toList || url.scheme = "https".toList

def portOrUsual? (url : Url) : Option Nat :=
  (url.authority.bind (·.port)).or (usualPort? url.scheme)

/-- Whether two URLs lead to the same host and port. -/
def sameServer (left right : Url) : Bool :=
  left.authority.map (·.host) = right.authority.map (·.host) &&
    left.portOrUsual? = right.portOrUsual?

end UploadProbe.Url
