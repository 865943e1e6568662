import UploadProbe.Json.Parser

/-!
# Job receipts

A receipt is what a server says about an accepted sample: a JSON object with the members named
here, or an array with their values in this order. Three of them are required; the other two may be
null or absent. Members with other names are passed over, whatever their values, but no known
member may occur twice.
-/

namespace UploadProbe

/-- The answer to an accepted sample. -/
structure JobReceipt where
  jobId : Text
  status : Text
  message : Text
  yaraMatches : Option (List Text)
  yaraSeverity : Option Text
deriving DecidableEq, Repr

namespace JobReceipt

/-- The members of a receipt. -/
inductive Field where
  | jobId
  | status
  | message
  | yaraMatches
  | yaraSeverity
deriving DecidableEq, Repr

namespace Field

def name : Field → Text
  | .jobId => "job_id".toList
  | .status => "status".toList
  | .message => "message".toList
  | .yaraMatches => "yara_matches".toList
  | .yaraSeverity => "yara_severity".toList

/-- All members in the order of the array form. -/
def all : List Field :=
  [.jobId, .status, .message, .yaraMatches, .yaraSeverity]

end Field

/-- The text of a value that is a string. -/
def textOf? : Json → Option Text
  | .string raw => raw.decode?
  | _ => none

/-- The text of a value that is a string, where null stands for none. -/
def optionalTextOf? : Json → Option (Option Text)
  | .null => some none
  | value => (textOf? value).map some

/-- The texts of a value that is an array of strings, where null stands for none. -/
def optionalTextsOf? : Json → Option (Option (List Text))
  | .null => some none
  | .array elements => (elements.mapM textOf?).map some
  | _ => none

/-- The receipt of the values of its members, of which the last two may be absent. -/
def ofValues? (jobId status message : Json) (yaraMatches yaraSeverity : Option Json) :
    Option JobReceipt := do
  return {
    jobId := ← textOf? jobId
    status := ← textOf? status
    message := ← textOf? message
    yaraMatches := ← optionalTextsOf? (yaraMatches.getD .null)
    yaraSeverity := ← optionalTextOf? (yaraSeverity.getD .null) }

/-- The receipt of an array of three to five values. -/
def ofElements? : List Json → Option JobReceipt
  | [jobId, status, message] => ofValues? jobId status message none none
  | [jobId, status, message, yaraMatches] => ofValues? jobId status message yaraMatches none
  | [jobId, status, message, yaraMatches, yaraSeverity] =>
    ofValues? jobId status message yaraMatches yaraSeverity
  | _ => none

/-- The value of a member; none when the member is absent. -/
def valueOf (field : Field) (members : List (Text × Json)) : Option Json :=
  (members.find? (·.1 = field.name)).map (·.2)

/-- Whether a member occurs at most once. -/
def occursAtMostOnce (members : List (Text × Json)) (field : Field) : Bool :=
  (members.filter (·.1 = field.name)).length ≤ 1

/-- The receipt of the members of an object, all of whose names must be text. -/
def ofMembers? (members : List (Json.RawString × Json)) : Option JobReceipt := do
  let members ← members.mapM fun (raw, value) => raw.decode?.map (·, value)
  if Field.all.all (occursAtMostOnce members) then
    let jobId ← valueOf .jobId members
    let status ← valueOf .status members
    let message ← valueOf .message members
    ofValues? jobId status message (valueOf .yaraMatches members) (valueOf .yaraSeverity members)
  else none

def ofJson? : Json → Option JobReceipt
  | .array elements => ofElements? elements
  | .object members => ofMembers? members
  | _ => none

/-- The receipt that a text holds, if the whole text is one. -/
def read? (text : Text) : Option JobReceipt :=
  (Json.read? text).bind ofJson?

end JobReceipt

end UploadProbe
