import UploadProbe.Sample.FileTree

/-!
# Walking a path

A path is walked one component at a time from a directory. A dot stays, two dots go to the physical
parent, a link is replaced by the components of its target wherever it stands, and a slash at the
end asks for a directory. `walk` allows forty links in all; with none left, a further link ends the
walk. The recursion is on the links that may still be followed and, between two of them, on the
components that are left.
-/

namespace UploadProbe

/-- Why a path leads nowhere. -/
inductive PathError where
  | missing
  | notDirectory
  | tooManyLinks
  | nameTooLong
deriving DecidableEq, Repr

def PathError.message : PathError → Text
  | .missing => "No such file or directory (os error 2)".toList
  | .notDirectory => "Not a directory (os error 20)".toList
  | .tooManyLinks => "Too many levels of symbolic links (os error 40)".toList
  | .nameTooLong => "File name too long (os error 36)".toList

/-- Where a walk ends. -/
inductive WalkEnd where
  | directory (place : Place)
  | file (place : Place) (name : Bytes) (content : Bytes)
  | device
  /-- At a directory that has no entry for the last component. -/
  | absent (place : Place) (name : Bytes)
  | stuck (error : PathError)
deriving DecidableEq, Repr

namespace SamplePath

/-- The components of a path. A slash at the end counts as one more component, a dot. -/
def components (path : SamplePath) : List Bytes :=
  let named := path.pieces.filter (!·.isEmpty)
  if path.getLast? = some slash then named ++ [here] else named

def nameLimit : Nat := 255

/-- The number of octets that a path stays below. -/
def pathLimit : Nat := 4096

/-- The directory where the path starts. -/
def start (path : SamplePath) (current : Place) : Place :=
  if path.isAbsolute then [] else current

end SamplePath

namespace FileTree

/-- Walks components up to the first link, where `follow` goes on with what the link names and what
is left behind it. -/
def walkUntilLink (tree : FileTree) (follow : Place → List Bytes → WalkEnd) :
    Place → List Bytes → WalkEnd
  | place, [] => .directory place
  | place, name :: rest =>
    if name = SamplePath.here then tree.walkUntilLink follow place rest
    else if name = SamplePath.parent then tree.walkUntilLink follow place.tail rest
    else if SamplePath.nameLimit < name.length then .stuck .nameTooLong
    else
      match tree.lookup? place name with
      | some (.directory _) => tree.walkUntilLink follow (name :: place) rest
      | some (.link target) => follow (target.start place) (target.components ++ rest)
      | some (.file content) =>
        if rest.isEmpty then .file place name content else .stuck .notDirectory
      | some .device => if rest.isEmpty then .device else .stuck .notDirectory
      | none => if rest.isEmpty then .absent place name else .stuck .missing

/-- Walks components with a number of links that may still be followed. -/
def walkFrom (tree : FileTree) : (links : Nat) → Place → List Bytes → WalkEnd
  | 0 => tree.walkUntilLink fun _ _ => .stuck .tooManyLinks
  | links + 1 => tree.walkUntilLink (tree.walkFrom links)

/-- How many links one walk may follow. -/
def linkLimit : Nat := 40

def walk (tree : FileTree) (current : Place) (path : SamplePath) : WalkEnd :=
  if path.isEmpty then .stuck .missing
  else if SamplePath.pathLimit ≤ path.length then .stuck .nameTooLong
  else tree.walkFrom linkLimit (path.start current) path.components

end FileTree

/-- Why a sample cannot be opened. -/
inductive OpenError where
  | containsNul
  | unreachable (error : PathError)
  /-- The path leads to something that is no regular file. -/
  | notRegular
  | failed (reason : Text)
deriving DecidableEq, Repr

/-- The causes of the failure to open a path, outermost first. -/
def OpenError.causes (path : SamplePath) (error : OpenError) : List Text :=
  let outer := "Failed to open ".toList ++ path.shown
  match error with
  | .containsNul => [outer, "file name contained an unexpected NUL byte".toList]
  | .unreachable error => [outer, error.message]
  | .notRegular => [outer ++ ": not a regular file".toList]
  | .failed reason => [outer, reason]

/-- The content of the regular file that a path leads to. -/
def FileTree.openSample (tree : FileTree) (current : Place) (path : SamplePath) :
    Except OpenError Bytes :=
  if path.contains 0 then .error .containsNul
  else
    match tree.walk current path with
    | .file _ _ content => .ok content
    | .directory _ => .error .notRegular
    | .device => .error .notRegular
    | .absent _ _ => .error (.unreachable .missing)
    | .stuck error => .error (.unreachable error)

end UploadProbe
