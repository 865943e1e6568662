import UploadProbe.Sample.Walk

/-!
# Edits of file trees

The changes that someone makes to a directory before a sample is read from it: writing a file,
making directories, making a link and removing an entry. Writing and making directories follow
links; making a link and removing act on the last name itself. An edit that the tree does not
allow changes nothing.
-/

namespace UploadProbe.FileTree

/-- Makes the directory of a path unless something stands there. -/
def makeDirectory (current : Place) (tree : FileTree) (path : SamplePath) : FileTree :=
  match tree.walk current path with
  | .absent place name => tree.alter place name fun found => some (found.getD .empty)
  | _ => tree

/-- The paths of the first component, of the first two, and so on. -/
def initialPaths (path : SamplePath) : List SamplePath :=
  let components := path.pieces.filter (!·.isEmpty)
  (List.range components.length).map fun count =>
    let joined := (components.take (count + 1)).flatMap (SamplePath.slash :: ·)
    if path.isAbsolute then joined else joined.tail

/-- Makes the directory of a path and all directories above it. -/
def makeDirectories (current : Place) (tree : FileTree) (path : SamplePath) : FileTree :=
  (initialPaths path).foldl (makeDirectory current) tree

def directoryPath (path : SamplePath) : SamplePath :=
  ((initialPaths path).dropLast.getLast?).getD []

/-- Writes a file, with the directories above it. -/
def writeFile (current : Place) (tree : FileTree) (path : SamplePath) (content : Bytes) :
    FileTree :=
  let tree := tree.makeDirectories current (directoryPath path)
  match tree.walk current path with
  | .absent place name => tree.alter place name fun _ => some (.file content)
  | .file place name _ => tree.alter place name fun _ => some (.file content)
  | _ => tree

/-- The directory that a path's last name stands in, links followed up to there. -/
def directoryOf? (current : Place) (tree : FileTree) (path : SamplePath) : Option Place :=
  let above := directoryPath path
  if above.isEmpty then some (path.start current)
  else
    match tree.walk current above with
    | .directory place => some place
    | _ => none

def lastName? (path : SamplePath) : Option Bytes :=
  (path.pieces.filter (!·.isEmpty)).getLast?

/-- Makes a link, with the directories above it. -/
def makeLink (current : Place) (tree : FileTree) (path target : SamplePath) : FileTree :=
  let tree := tree.makeDirectories current (directoryPath path)
  match tree.directoryOf? current path, lastName? path with
  | some place, some name => tree.alter place name fun found => some (found.getD (.link target))
  | _, _ => tree

/-- Removes the entry of a path with everything below it. -/
def remove (current : Place) (tree : FileTree) (path : SamplePath) : FileTree :=
  match tree.directoryOf? current path, lastName? path with
  | some place, some name => tree.alter place name fun _ => none
  | _, _ => tree

end UploadProbe.FileTree
