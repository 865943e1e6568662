import UploadProbe.Sample.Path

/-!
# File trees

A tree of directories whose entries are files, symbolic links, devices and further directories. A
place in it is a directory, given by the names that lead to it from the root, the innermost first,
so that going up drops the head. `alter` is the one way to change a tree: it changes the entry of
one name in one place.
-/

namespace UploadProbe

/-- A directory entry with what lies below it. -/
inductive FileTree where
  | file (content : Bytes)
  | link (target : SamplePath)
  /-- Something that can be opened but is neither a file nor a directory. -/
  | device
  /-- A directory, with its entries by name. -/
  | directory (entries : List (Bytes × FileTree))

/-- A directory in a tree: the names that lead to it, the innermost first. -/
abbrev Place := List Bytes

namespace FileTree

def empty : FileTree := .directory []

def named? (tree : FileTree) (name : Bytes) : Option FileTree :=
  match tree with
  | .directory entries => (entries.find? (·.1 = name)).map (·.2)
  | _ => none

/-- What the names lead to, the outermost first, links not followed. -/
def descend? (tree : FileTree) : List Bytes → Option FileTree
  | [] => some tree
  | name :: names => (tree.named? name).bind (descend? · names)

def lookup? (tree : FileTree) (place : Place) (name : Bytes) : Option FileTree :=
  (tree.descend? place.reverse).bind (·.named? name)

/-- The entries with the one of a name rewritten, put in front when it is new. -/
def alterEntry (name : Bytes) (change : Option FileTree → Option FileTree)
    (entries : List (Bytes × FileTree)) : List (Bytes × FileTree) :=
  let others := entries.filter (·.1 ≠ name)
  match change ((entries.find? (·.1 = name)).map (·.2)) with
  | some tree => (name, tree) :: others
  | none => others

/-- The tree with the entry behind some names, the outermost first, rewritten. A name that leads
nowhere, or through something that is no directory, changes nothing. -/
def alterBelow (change : Option FileTree → Option FileTree) (name : Bytes) :
    List Bytes → FileTree → FileTree
  | [], .directory entries => .directory (alterEntry name change entries)
  | outer :: names, .directory entries =>
    .directory (alterEntry outer (·.map (alterBelow change name names)) entries)
  | _, tree => tree

/-- The tree with the entry of a name at a place rewritten. -/
def alter (tree : FileTree) (place : Place) (name : Bytes)
    (change : Option FileTree → Option FileTree) : FileTree :=
  tree.alterBelow change name place.reverse

end FileTree

end UploadProbe
