import UploadProbe.Url.Address
import UploadProbe.Url.HostMapping

/-!
# Reading URLs

A URL is read from text as browsers read it: blanks and control characters around it and line ends
and tabs inside it are dropped, a backslash counts as a slash where the scheme is a special one,
dots in the path are resolved, and each part is brought into its normal form. A text without a
scheme is read relative to a base, if there is one.
-/

namespace UploadProbe

/-- Why a text is no URL. -/
inductive UrlError where
  | relativeWithoutBase
  | relativeToOpaque
  | emptyHost
  | invalidDomain
  | invalidDomainCharacter
  | invalidIpv4
  | invalidIpv6
  | invalidPort
deriving DecidableEq, Repr

def UrlError.message : UrlError → Text
  | .relativeWithoutBase => "relative URL without a base".toList
  | .relativeToOpaque => "relative URL with a cannot-be-a-base base".toList
  | .emptyHost => "empty host".toList
  | .invalidDomain => "invalid international domain name".toList
  | .invalidDomainCharacter => "invalid domain character".toList
  | .invalidIpv4 => "invalid IPv4 address".toList
  | .invalidIpv6 => "invalid IPv6 address".toList
  | .invalidPort => "invalid port number".toList

namespace Url

/-- How a scheme treats what stands behind it. -/
inductive SchemeKind where
  | special
  | file
  | other
deriving DecidableEq, Repr

/-- The schemes whose URLs always name a machine. -/
def specialSchemes : List Text :=
  ["http".toList, "https".toList, "ws".toList, "wss".toList, "ftp".toList]

def fileScheme : Text := "file".toList

/-- How a scheme treats what stands behind it. -/
def kindOf (scheme : Text) : SchemeKind :=
  if scheme = fileScheme then .file
  else if specialSchemes.contains scheme then .special
  else .other

/-- Whether a backslash counts as a slash. -/
def SchemeKind.foldsBackslash (kind : SchemeKind) : Bool :=
  kind ≠ .other

/-- Control characters and blanks, which are dropped around a URL. -/
def isMargin (c : Char) : Bool :=
  c ≤ ' '

def isIgnored (c : Char) : Bool :=
  c = '\t' || c = '\n' || c = '\r'

def clean (text : Text) : Text :=
  (Text.trim isMargin text).filter (!isIgnored ·)

/-- Splits a scheme, in small letters, off the front. -/
def splitScheme? (text : Text) : Option (Text × Text) :=
  let isSchemeChar (c : Char) := c.isAlphanum || c = '+' || c = '-' || c = '.'
  match text.takeWhile isSchemeChar, text.dropWhile isSchemeChar with
  | first :: scheme, ':' :: rest =>
    if first.isAlpha then some (Text.lower (first :: scheme), rest) else none
  | _, _ => none

/-- A slash, or a backslash where it counts as one. -/
def isSlash (kind : SchemeKind) (c : Char) : Bool :=
  c = '/' || (c = '\\' && kind.foldsBackslash)

/-- Whether a character ends the authority. -/
def endsAuthority (kind : SchemeKind) (c : Char) : Bool :=
  isSlash kind c || c = '?' || c = '#'

/-- The pieces of a text between slashes. -/
def splitSlashes (kind : SchemeKind) : Text → List Text
  | [] => [[]]
  | c :: rest =>
    if isSlash kind c then [] :: splitSlashes kind rest
    else
      match splitSlashes kind rest with
      | [] => [[c]]
      | piece :: pieces => (c :: piece) :: pieces

/-- A segment with its encoded dots as dots. -/
def undot : Text → Text
  | '%' :: '2' :: 'e' :: rest => '.' :: undot rest
  | '%' :: '2' :: 'E' :: rest => '.' :: undot rest
  | c :: rest => c :: undot rest
  | [] => []

/-- Adds pieces to the segments of a path, among them dots that lead to other segments. A path whose
last piece is a dot or two ends with a slash. -/
def addSegments (segments : List Text) : List Text → List Text
  | [] => segments
  | piece :: rest =>
    let closing := if rest.isEmpty then [[]] else []
    if undot piece = ['.', '.'] then addSegments (segments.dropLast ++ closing) rest
    else if undot piece = ['.'] then addSegments (segments ++ closing) rest
    else addSegments (segments ++ [Percent.encode Percent.pathSet piece]) rest

/-- Splits a text into what stands before a query or fragment, the query and the fragment. -/
def cutTail (text : Text) : Text × Option Text × Option Text :=
  let (beforeFragment, fragment) := Text.cutAt (· = '#') text
  let (beforeQuery, query) := Text.cutAt (· = '?') beforeFragment
  (beforeQuery, query, fragment)

def normalQuery (kind : SchemeKind) (query : Text) : Text :=
  Percent.encode
    (if kind = .other then Percent.querySet else Percent.specialQuerySet) query

def normalFragment (fragment : Text) : Text :=
  Percent.encode Percent.fragmentSet fragment

/-- The URL of a path that has been read and of the query and fragment behind it. -/
def withTail (scheme : Text) (authority : Option Authority) (path : UrlPath)
    (query fragment : Option Text) : Url where
  scheme
  authority
  path
  query := query.map (normalQuery (kindOf scheme))
  fragment := fragment.map normalFragment

/-- The segments of a path that starts at the root. -/
def rootSegments (kind : SchemeKind) (text : Text) : List Text :=
  match text with
  | [] => if kind = .other then [] else [[]]
  | c :: rest =>
    if isSlash kind c then addSegments [] (splitSlashes kind rest)
    else addSegments [] (splitSlashes kind text)

/-- The user name and password in front of a host. -/
def readUserinfo (text : Text) : Text × Option Text :=
  let encode := Percent.encode Percent.userinfoSet
  match Text.cutAt (· = ':') text with
  | (username, none) => (encode username, none)
  | (username, some password) =>
    (encode username, if password.isEmpty then none else some (encode password))

variable [HostMapping]

/-- Reads the text of a host in a special scheme or the scheme of files. -/
def readHost (text : Text) : Except UrlError Host :=
  match text with
  | '[' :: rest =>
    if rest.getLast? = some ']' then
      match Host.readIpv6? rest.dropLast with
      | some pieces => .ok (.ipv6 pieces)
      | none => .error .invalidIpv6
    else .error .invalidIpv6
  | _ =>
    match HostMapping.toAscii? (Percent.decode text) with
    | none => .error .invalidDomain
    | some name =>
      if name.isEmpty then .error .emptyHost
      else if Host.endsInNumber name then
        match Host.readIpv4? name with
        | some address => .ok (.ipv4 address)
        | none => .error .invalidIpv4
      else .ok (.domain name)

/-- Characters that a host of any other scheme may not hold. -/
def isForbiddenInOpaqueHost (c : Char) : Bool :=
  ['\x00', '\t', '\n', '\r', ' ', '#', '/', ':', '<', '>', '?', '@', '[', '\\', ']', '^',
    '|'].contains c

/-- Reads the text of a host in any other scheme. -/
def readOpaqueHost (text : Text) : Except UrlError Host :=
  match text with
  | '[' :: _ => readHost text
  | _ =>
    if text.any isForbiddenInOpaqueHost then .error .invalidDomainCharacter
    else .ok (.domain (Percent.encode Percent.controls text))

/-- Splits the text of a host from what follows: a colon outside brackets ends it. -/
def cutHost (inBrackets : Bool) : Text → Text × Text
  | [] => ([], [])
  | c :: rest =>
    if c = ':' && !inBrackets then ([], c :: rest)
    else
      let (host, after) :=
        cutHost (if c = '[' then true else if c = ']' then false else inBrackets) rest
      (c :: host, after)

def greatestPort : Nat := 65535

/-- Reads a port; the usual port of the scheme counts as none. -/
def readPort (scheme text : Text) : Except UrlError (Option Nat) :=
  if !text.all Char.isDigit || greatestPort < Text.decimalValue text then .error .invalidPort
  else if text.isEmpty || usualPort? scheme = some (Text.decimalValue text) then .ok none
  else .ok (some (Text.decimalValue text))

def cutAtLastAt (text : Text) : Option (Text × Text) :=
  if text.contains '@' then
    let reversed := text.reverse
    some ((reversed.dropWhile (· ≠ '@')).tail.reverse, (reversed.takeWhile (· ≠ '@')).reverse)
  else none

def readHostAndPort (scheme text : Text) : Except UrlError (Host × Option Nat) := do
  let kind := kindOf scheme
  let (hostText, behind) := cutHost false text
  let host ←
    if kind = .special && hostText.isEmpty then .error .emptyHost
    else if kind = .other then readOpaqueHost hostText
    else readHost hostText
  match behind with
  | ':' :: portText =>
    if host.isEmpty then .error .emptyHost else return (host, ← readPort scheme portText)
  | _ => return (host, none)

/-- Reads an authority from the text up to the path. -/
def readAuthority (scheme text : Text) (isLast : Bool) : Except UrlError Authority := do
  match cutAtLastAt text with
  | none =>
    let (host, port) ← readHostAndPort scheme text
    return { host, port }
  | some ([], hostText) =>
    if hostText.isEmpty && !isLast then .error .emptyHost
    else
      let (host, port) ← readHostAndPort scheme hostText
      return { host, port }
  | some (userinfo, hostText) =>
    let (username, password) := readUserinfo userinfo
    let (host, port) ← readHostAndPort scheme hostText
    if host.isEmpty && !(username.isEmpty && password.isNone) then .error .emptyHost
    else return { username, password, host, port }

/-- Reads what stands behind the two slashes. -/
def readAfterSlashes (scheme text : Text) : Except UrlError Url := do
  let kind := kindOf scheme
  let authorityText := text.takeWhile (!endsAuthority kind ·)
  let rest := text.dropWhile (!endsAuthority kind ·)
  let authority ← readAuthority scheme authorityText rest.isEmpty
  let (pathText, query, fragment) := cutTail rest
  return withTail scheme (some authority) (.segments (rootSegments kind pathText)) query fragment

/-- A drive letter and a colon or bar, which looks like a host of a file but is not one. -/
def isDriveLetter (text : Text) : Bool :=
  match text with
  | [letter, c] => letter.isAlpha && (c = ':' || c = '|')
  | _ => false

/-- The segments of the path of a file, without empty ones in front. -/
def fileSegments (text : Text) : List Text :=
  match (rootSegments .file text).dropWhile List.isEmpty with
  | [] => [[]]
  | segments => segments

/-- Reads what stands behind the scheme of files. -/
def readFile (text : Text) : Except UrlError Url := do
  let finish (host : Host) (text : Text) : Url :=
    let (pathText, query, fragment) := cutTail text
    withTail fileScheme (some { host }) (.segments (fileSegments pathText)) query fragment
  match text with
  | first :: second :: rest =>
    if isSlash .file first && isSlash .file second then
      let hostText := rest.takeWhile (!endsAuthority .file ·)
      if isDriveLetter hostText then return finish (.domain []) rest
      else if hostText.isEmpty then return finish (.domain []) rest
      else
        let host ← readHost hostText
        let host := if host = .domain "localhost".toList then .domain [] else host
        return finish host (rest.dropWhile (!endsAuthority .file ·))
    else return finish (.domain []) text
  | _ => return finish (.domain []) text

/-- Reads what stands behind any other scheme. -/
def readOther (scheme text : Text) : Except UrlError Url :=
  match text with
  | '/' :: '/' :: rest => readAfterSlashes scheme rest
  | _ =>
    let (pathText, query, fragment) := cutTail text
    let path :=
      match pathText with
      | '/' :: _ => .segments (rootSegments .other pathText)
      | _ => .opaquePath (Percent.encode Percent.controls pathText)
    .ok (withTail scheme none path query fragment)

/-- The segments of a base that a relative path starts from. -/
def baseSegments (base : Url) : List Text :=
  match base.path with
  | .segments segments => segments.dropLast
  | .opaquePath _ => []

/-- Whether a path has no inner structure. -/
def isOpaque (url : Url) : Bool :=
  match url.path with
  | .opaquePath _ => true
  | .segments _ => false

/-- Reads a text without a scheme relative to a base. -/
def readRelative (base : Url) (text : Text) : Except UrlError Url :=
  let kind := kindOf base.scheme
  let (pathText, query, fragment) := cutTail text
  match pathText with
  | [] =>
    match query with
    | some query =>
      .ok (withTail base.scheme base.authority base.path (some query) fragment)
    | none => .ok { base with fragment := fragment.map normalFragment }
  | first :: rest =>
    if isSlash kind first then
      if rest.head?.any (isSlash kind) then
        match text with
        | '/' :: '/' :: behind => readAfterSlashes base.scheme behind
        | _ => readAfterSlashes base.scheme (text.dropWhile (isSlash kind))
      else
        .ok (withTail base.scheme base.authority
          (.segments (addSegments [] (splitSlashes kind rest))) query fragment)
    else
      .ok (withTail base.scheme base.authority
        (.segments (addSegments (baseSegments base) (splitSlashes kind pathText))) query fragment)

/-- Reads what stands behind a scheme. -/
def readBehindScheme (base : Option Url) (scheme text : Text) : Except UrlError Url :=
  match kindOf scheme with
  | .file => readFile text
  | .other => readOther scheme text
  | .special =>
    let slashes := text.takeWhile (isSlash .special)
    match base with
    | some base =>
      if slashes.length < 2 && base.scheme = scheme then readRelative base text
      else readAfterSlashes scheme (text.dropWhile (isSlash .special))
    | none => readAfterSlashes scheme (text.dropWhile (isSlash .special))

/-- Reads a URL, relative to a base if there is one. -/
def readWith (base : Option Url) (text : Text) : Except UrlError Url :=
  let text := clean text
  match splitScheme? text with
  | some (scheme, rest) => readBehindScheme base scheme rest
  | none =>
    match base with
    | none => .error .relativeWithoutBase
    | some base =>
      if base.isOpaque then
        match text with
        | '#' :: fragment => .ok { base with fragment := some (normalFragment fragment) }
        | _ => .error .relativeToOpaque
      else readRelative base text

def read (text : Text) : Except UrlError Url :=
  readWith none text

/-- Reads a reference found at a URL. -/
def resolve (base : Url) (reference : Text) : Except UrlError Url :=
  readWith (some base) reference

end Url

end UploadProbe
