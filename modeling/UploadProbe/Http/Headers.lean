import UploadProbe.Text.Basic

/-!
# Request headers

Headers are kept in the order in which they are sent, each name once. A header that is set again
keeps its place; the place of a header that is removed is taken by the last one.
-/

namespace UploadProbe

/-- One line of a head: a name in small letters and a value. -/
structure Header where
  name : Text
  value : Text
deriving DecidableEq, Repr

def Header.line (header : Header) : Text :=
  header.name ++ ": ".toList ++ header.value

/-- Headers in the order in which they are sent. -/
abbrev Headers := List Header

namespace Headers

/-- Sets a header, in its place if it is there and at the end if it is not. -/
def insert (name value : Text) : Headers → Headers
  | [] => [⟨name, value⟩]
  | header :: rest =>
    if header.name = name then ⟨name, value⟩ :: rest else header :: insert name value rest

/-- Removes a header; the last one takes its place. -/
def remove (name : Text) : Headers → Headers
  | [] => []
  | header :: rest =>
    if header.name = name then
      match rest.getLast? with
      | none => []
      | some last => last :: rest.dropLast
    else header :: remove name rest

end Headers

/-- The names of the headers that requests carry. -/
inductive HeaderName where
  | authorization
  | contentType
  | contentLength
  | accept
  | referer
  | host
deriving DecidableEq, Repr

def HeaderName.text : HeaderName → Text
  | .authorization => "authorization".toList
  | .contentType => "content-type".toList
  | .contentLength => "content-length".toList
  | .accept => "accept".toList
  | .referer => "referer".toList
  | .host => "host".toList

end UploadProbe
