import UploadProbe.Text.Utf8

/-!
# Paths of samples

A path is a string of octets with slashes between its segments. Empty segments and single dots add
nothing to it, except that a slash in front stands for the root and a dot in front for the place
where one is. The last step of a path is looked for from its end; it names the sample if it is a
segment with a name that is a text.
-/

namespace UploadProbe

/-- A path as it was given. -/
abbrev SamplePath := Bytes

namespace SamplePath

def slash : UInt8 := 0x2F

def here : Bytes := [0x2E]

def parent : Bytes := [0x2E, 0x2E]

/-- Everything between slashes, empty pieces included. -/
def pieces (path : SamplePath) : List Bytes :=
  Bytes.splitOn slash path

/-- The segments that add something to the path. -/
def segments (path : SamplePath) : List Bytes :=
  path.pieces.filter fun piece => !piece.isEmpty && piece != here

def isAbsolute (path : SamplePath) : Bool :=
  path.head? = some slash

/-- What one step of a path is. -/
inductive Step where
  | root
  /-- A dot in front; anywhere else a dot is no step. -/
  | here
  | parent
  | name (segment : Bytes)
deriving DecidableEq, Repr

/-- The step that a segment makes, wherever it stands. -/
def stepOf? (segment : Bytes) : Option Step :=
  if segment.isEmpty || segment = here then none
  else if segment = parent then some .parent
  else some (.name segment)

/-- Whether a dot in front of a path is a segment of its own. -/
def startsHere : SamplePath → Bool
  | [] => false
  | [first] => first = 0x2E
  | first :: second :: _ => first = 0x2E && second = slash

/-- The step in front of a path, if there is one, and what is behind it. -/
def front (path : SamplePath) : Option Step × Bytes :=
  if path.isAbsolute then (some .root, path.tail)
  else if path.startsHere then (some .here, path.tail)
  else (none, path)

/-- The last step that octets make, read from their end; `segment` has been read since the last
slash. -/
def lastStepFrom? (segment : Bytes) : (backwards : Bytes) → Option Step
  | [] => stepOf? segment
  | b :: rest =>
    if b = slash then
      match stepOf? segment with
      | some step => some step
      | none => lastStepFrom? [] rest
    else lastStepFrom? (b :: segment) rest

/-- The last step of a path. -/
def lastStep? (path : SamplePath) : Option Step :=
  match lastStepFrom? [] path.front.2.reverse with
  | some step => some step
  | none => path.front.1

/-- The name that a step gives to what it leads to. -/
def Step.fileName? : Step → Option Text
  | .name segment => Utf8.decode? segment
  | .root | .here | .parent => none

/-- The name that the path gives to the sample. -/
def fileName? (path : SamplePath) : Option Text :=
  path.lastStep?.bind Step.fileName?

/-- Whether two paths name the same steps: both from the root or both not, both or neither with a
dot in front, and with the same segments. -/
def sameSteps (left right : SamplePath) : Bool :=
  left.isAbsolute = right.isAbsolute &&
    (left.pieces.head? = some here) = (right.pieces.head? = some here) &&
    left.segments = right.segments

def shown (path : SamplePath) : Text :=
  Utf8.decodeLossy path

end SamplePath

end UploadProbe
