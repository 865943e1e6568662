import Mathlib
import UploadProbe.Probe
import UploadProbe.Proofs.FramingReading
import UploadProbe.Proofs.Utf8

/-!
# What a path leads to

A path is resolved from what is written in it. A slash is passed over, a dot stays, two dots go up,
a directory is entered, and what is written in a link takes the place of the link in the path, as
often as links may be followed. The resolution ends after the path, or at the first name that leads
no further. It takes finitely many steps, links that lead to each other included, and it has one
outcome. Exactly what it makes of a path is what opening a sample makes of it.
-/

namespace UploadProbe

namespace SamplePath

variable {name left rest further : Bytes}

/-- Whether a name that stands before the rest of a path is complete. -/
def EndsName (rest : SamplePath) : Prop :=
  rest = [] ∨ ∃ further, rest = slash :: further

/-- Whether a segment is looked up in a directory. -/
structure IsName (name : Bytes) : Prop where
  nonempty : name ≠ []
  clear : slash ∉ name
  notHere : name ≠ here
  notParent : name ≠ parent

/-- Whether every name in a path is short enough for a directory. -/
def HasShortNames (path : SamplePath) : Prop :=
  ∀ name, name <:+: path → slash ∉ name → name.length ≤ 255

/-- A path that does not begin with a slash begins with a segment. -/
theorem exists_segment (nonempty : left ≠ []) (notSlash : left.head? ≠ some slash) :
    ∃ name rest, left = name ++ rest ∧ name ≠ [] ∧ slash ∉ name ∧ EndsName rest := by
  refine ⟨left.takeWhile (· ≠ slash), left.dropWhile (· ≠ slash),
    List.takeWhile_append_dropWhile.symm, ?_, ?_, ?_⟩
  · cases left with
    | nil => contradiction
    | cons b left =>
        have solid : b ≠ slash := by simpa using notSlash
        simp [solid]
  · intro member
    simpa using List.mem_takeWhile_imp member
  · cases behind : left.dropWhile (· ≠ slash) with
    | nil => exact .inl rfl
    | cons b further =>
        have isSlash := List.head?_dropWhile_not (· ≠ slash) left
        rw [behind] at isSlash
        have same : b = slash := by simpa using isSlash
        exact .inr ⟨further, by rw [same]⟩

/-- The segments of a path that are not empty. -/
def named (path : SamplePath) : List Bytes :=
  path.pieces.filter (!·.isEmpty)

theorem components_eq (path : SamplePath) :
    components path = named path ++ if path.getLast? = some slash then [here] else [] := by
  rw [components, named]
  split <;> simp

theorem named_append_slash (left right : SamplePath) :
    named (left ++ slash :: right) = named left ++ named right := by
  rw [named, pieces, Bytes.splitOn_append, List.filter_append]
  rfl

theorem named_of_segment (nonempty : name ≠ []) (clear : slash ∉ name) : named name = [name] := by
  rw [named, pieces, Bytes.splitOn_of_notMem clear]
  simp [nonempty]

theorem components_append_slash (left further : SamplePath) :
    components (left ++ slash :: further) = named left ++ components (slash :: further) := by
  have first : named (slash :: further) = named further := named_append_slash [] further
  rw [components_eq, components_eq (slash :: further), named_append_slash, first,
    List.getLast?_append_cons, List.append_assoc]

theorem components_slash (further : SamplePath) :
    components (slash :: further) = if further = [] then [here] else components further := by
  split
  · rename_i atEnd
    rw [atEnd]
    decide
  · rename_i inside
    have first : named (slash :: further) = named further := named_append_slash [] further
    have last : (slash :: further).getLast? = further.getLast? := by
      rw [← List.singleton_append, List.getLast?_append_of_ne_nil _ inside]
    rw [components_eq, components_eq further, first, last]

theorem components_segment_append (nonempty : name ≠ []) (clear : slash ∉ name)
    (ends : EndsName rest) : components (name ++ rest) = name :: components rest := by
  rcases ends with rfl | ⟨further, rfl⟩
  · have last : name.getLast? ≠ some slash := fun isLast => clear (List.mem_of_getLast? isLast)
    rw [List.append_nil, components_eq, named_of_segment nonempty clear, if_neg last]
    rfl
  · rw [components_append_slash, named_of_segment nonempty clear]
    rfl

theorem components_eq_nil_iff : components left = [] ↔ left = [] := by
  constructor
  · intro none
    induction left with
    | nil => rfl
    | cons b left inductionHypothesis =>
        exfalso
        by_cases isSlash : b = slash
        · rw [isSlash, components_slash] at none
          split at none
          · contradiction
          · exact ‹left ≠ []› (inductionHypothesis none)
        · obtain ⟨name, rest, written, nonempty, clear, ends⟩ :=
            @exists_segment (b :: left) (by simp) (by simpa using isSlash)
          rw [written, components_segment_append nonempty clear ends] at none
          contradiction
  · rintro rfl
    rfl

end SamplePath

namespace FileTree

variable {tree : FileTree}

/-- What a walk does at a link, by how many links may still be followed. -/
def onLink (tree : FileTree) : (links : Nat) → Place → List Bytes → WalkEnd
  | 0 => fun _ _ => .stuck .tooManyLinks
  | links + 1 => tree.walkFrom links

theorem walkFrom_eq (links : Nat) :
    tree.walkFrom links = tree.walkUntilLink (tree.onLink links) := by
  cases links <;> rfl

/-- What a walk does at a name with an entry. -/
def atEntry (tree : FileTree) (follow : Place → List Bytes → WalkEnd) (place : Place)
    (name : Bytes) (rest : List Bytes) : Option FileTree → WalkEnd
  | some (.directory _) => tree.walkUntilLink follow (name :: place) rest
  | some (.link target) => follow (target.start place) (target.components ++ rest)
  | some (.file content) =>
    if rest.isEmpty then .file place name content else .stuck .notDirectory
  | some .device => if rest.isEmpty then .device else .stuck .notDirectory
  | none => if rest.isEmpty then .absent place name else .stuck .missing

theorem walkUntilLink_name {follow : Place → List Bytes → WalkEnd} {name : Bytes}
    (isName : SamplePath.IsName name) (short : name.length ≤ 255) (place : Place)
    (rest : List Bytes) :
    tree.walkUntilLink follow place (name :: rest) =
      tree.atEntry follow place name rest (tree.lookup? place name) := by
  have within : ¬ SamplePath.nameLimit < name.length := Nat.not_lt.mpr short
  rw [walkUntilLink, if_neg isName.notHere, if_neg isName.notParent, if_neg within]
  rfl

/-- A dot before further components changes nothing, if it changes nothing behind links. -/
theorem walkUntilLink_append_here {follow : Place → List Bytes → WalkEnd} {behind : List Bytes}
    (inside : behind ≠ [])
    (follows : ∀ place front,
      follow place (front ++ SamplePath.here :: behind) = follow place (front ++ behind))
    (place : Place) (front : List Bytes) :
    tree.walkUntilLink follow place (front ++ SamplePath.here :: behind) =
      tree.walkUntilLink follow place (front ++ behind) := by
  induction front generalizing place with
  | nil => rw [List.nil_append, List.nil_append, walkUntilLink, if_pos rfl]
  | cons name front inductionHypothesis =>
      have notLast : (front ++ SamplePath.here :: behind).isEmpty = (front ++ behind).isEmpty := by
        rw [List.isEmpty_eq_false_iff.mpr (by simp),
          List.isEmpty_eq_false_iff.mpr (by simp [inside])]
      have followsLink (place : Place) (target : SamplePath) :
          follow place (target.components ++ (front ++ SamplePath.here :: behind)) =
            follow place (target.components ++ (front ++ behind)) := by
        rw [← List.append_assoc, follows, List.append_assoc]
      simp only [List.cons_append, walkUntilLink, inductionHypothesis, notLast, followsLink]

/-- A dot before further components changes nothing. -/
theorem walkFrom_append_here {behind : List Bytes} (inside : behind ≠ []) (links : Nat)
    (place : Place) (front : List Bytes) :
    tree.walkFrom links place (front ++ SamplePath.here :: behind) =
      tree.walkFrom links place (front ++ behind) := by
  induction links generalizing place front with
  | zero => exact walkUntilLink_append_here inside (fun _ _ => rfl) place front
  | succ links inductionHypothesis =>
      exact walkUntilLink_append_here inside inductionHypothesis place front

/-- The components of a link stand where those of what is written in it and of the rest stand. -/
theorem walkFrom_components_append {rest : SamplePath} (ends : rest.EndsName) (links : Nat)
    (place : Place) (target : SamplePath) :
    tree.walkFrom links place (target.components ++ rest.components) =
      tree.walkFrom links place (SamplePath.components (target ++ rest)) := by
  rcases ends with rfl | ⟨further, rfl⟩
  · rw [show SamplePath.components [] = [] from rfl, List.append_nil, List.append_nil]
  · have inside : SamplePath.components (SamplePath.slash :: further) ≠ [] := by
      rw [Ne, SamplePath.components_eq_nil_iff]
      simp
    rw [SamplePath.components_append_slash, SamplePath.components_eq]
    split
    · rw [List.append_assoc]
      exact walkFrom_append_here inside links place _
    · rw [List.append_nil]

end FileTree

/-- What a path leads to. -/
inductive PathTarget where
  | file (content : Bytes)
  | directory
  | device
  | failure (error : PathError)
deriving DecidableEq, Repr

def WalkEnd.target : WalkEnd → PathTarget
  | .directory _ => .directory
  | .file _ _ content => .file content
  | .device => .device
  | .absent _ _ => .failure .missing
  | .stuck error => .failure error

/-- What the resolution of a path has come to. -/
structure PathWalk where
  place : Place
  /-- What is left of the path. -/
  left : SamplePath
  /-- How many links may still be followed. -/
  links : Nat

namespace PathWalk

/-- What is left begins with a name, and the directory has this entry for it. -/
structure Meets (tree : FileTree) (walk : PathWalk) (name : Bytes) (rest : SamplePath)
    (entry : Option FileTree) : Prop where
  left : walk.left = name ++ rest
  isName : SamplePath.IsName name
  ends : rest.EndsName
  short : name.length ≤ 255
  entry : tree.lookup? walk.place name = entry

/-- One step of the resolution. -/
inductive Step (tree : FileTree) : PathWalk → PathWalk → Prop
  | slash {place : Place} {left : SamplePath} {links : Nat} :
    Step tree ⟨place, SamplePath.slash :: left, links⟩ ⟨place, left, links⟩
  | here {place : Place} {rest : SamplePath} {links : Nat} (ends : rest.EndsName) :
    Step tree ⟨place, SamplePath.here ++ rest, links⟩ ⟨place, rest, links⟩
  | parent {place : Place} {rest : SamplePath} {links : Nat} (ends : rest.EndsName) :
    Step tree ⟨place, SamplePath.parent ++ rest, links⟩ ⟨place.tail, rest, links⟩
  | enter {walk : PathWalk} {name : Bytes} {rest : SamplePath} {entries : List (Bytes × FileTree)}
    (meets : Meets tree walk name rest (some (.directory entries))) :
    Step tree walk ⟨name :: walk.place, rest, walk.links⟩
  | follow {walk : PathWalk} {name : Bytes} {rest target : SamplePath} {links : Nat}
    (meets : Meets tree walk name rest (some (.link target))) (remain : walk.links = links + 1) :
    Step tree walk ⟨target.start walk.place, target ++ rest, links⟩

/-- Where the resolution ends, and as what. -/
inductive Stops (tree : FileTree) : PathWalk → PathTarget → Prop
  | directory {place : Place} {links : Nat} : Stops tree ⟨place, [], links⟩ .directory
  | file {walk : PathWalk} {name content : Bytes}
    (meets : Meets tree walk name [] (some (.file content))) : Stops tree walk (.file content)
  | device {walk : PathWalk} {name : Bytes} (meets : Meets tree walk name [] (some .device)) :
    Stops tree walk .device
  | throughFile {walk : PathWalk} {name content further : Bytes}
    (meets : Meets tree walk name (SamplePath.slash :: further) (some (.file content))) :
    Stops tree walk (.failure .notDirectory)
  | throughDevice {walk : PathWalk} {name further : Bytes}
    (meets : Meets tree walk name (SamplePath.slash :: further) (some .device)) :
    Stops tree walk (.failure .notDirectory)
  | missing {walk : PathWalk} {name : Bytes} {rest : SamplePath}
    (meets : Meets tree walk name rest none) : Stops tree walk (.failure .missing)
  | tooManyLinks {walk : PathWalk} {name : Bytes} {rest target : SamplePath}
    (meets : Meets tree walk name rest (some (.link target))) (noneRemain : walk.links = 0) :
    Stops tree walk (.failure .tooManyLinks)
  | nameTooLong {place : Place} {name : Bytes} {rest : SamplePath} {links : Nat}
    (isName : SamplePath.IsName name) (ends : rest.EndsName) (long : 255 < name.length) :
    Stops tree ⟨place, name ++ rest, links⟩ (.failure .nameTooLong)

end PathWalk

/-- What a path leads to from a directory. An empty path leads nowhere, nor does one that is too
long; any other is resolved, and forty links may be followed on the way. -/
inductive FileTree.LeadsTo (tree : FileTree) (current : Place) : SamplePath → PathTarget → Prop
  | empty : LeadsTo tree current [] (.failure .missing)
  | tooLong {path : SamplePath} (long : 4096 ≤ path.length) :
    LeadsTo tree current path (.failure .nameTooLong)
  | resolved {path : SamplePath} {last : PathWalk} {target : PathTarget} (nonempty : path ≠ [])
    (short : path.length < 4096)
    (steps : Relation.ReflTransGen (PathWalk.Step tree) ⟨path.start current, path, 40⟩ last)
    (stops : PathWalk.Stops tree last target) : LeadsTo tree current path target

namespace PathWalk

variable {tree : FileTree} {walk next last : PathWalk} {target other : PathTarget}
  {name : Bytes} {rest : SamplePath} {entry : Option FileTree}

/-- Where walking the components of what is left ends. -/
def ending (tree : FileTree) (walk : PathWalk) : WalkEnd :=
  tree.walkFrom walk.links walk.place walk.left.components

theorem Meets.ending_eq (meets : walk.Meets tree name rest entry) :
    walk.ending tree =
      tree.atEntry (tree.onLink walk.links) walk.place name rest.components entry := by
  have segment := SamplePath.components_segment_append meets.isName.nonempty meets.isName.clear
    meets.ends
  rw [ending, meets.left, segment, FileTree.walkFrom_eq,
    FileTree.walkUntilLink_name meets.isName meets.short, meets.entry]

/-- A step does not change where the walk ends. -/
theorem Step.ending_eq (step : Step tree walk next) : walk.ending tree = next.ending tree := by
  cases step with
  | slash =>
      rename_i place left links
      rw [ending, ending, SamplePath.components_slash]
      split
      · rename_i atEnd
        rw [atEnd, FileTree.walkFrom_eq]
        rfl
      · rfl
  | here ends =>
      rw [ending, SamplePath.components_segment_append (by decide) (by decide) ends,
        FileTree.walkFrom_eq, FileTree.walkUntilLink, if_pos rfl, ← FileTree.walkFrom_eq]
      rfl
  | parent ends =>
      rw [ending, SamplePath.components_segment_append (by decide) (by decide) ends,
        FileTree.walkFrom_eq, FileTree.walkUntilLink, if_neg (by decide), if_pos rfl,
        ← FileTree.walkFrom_eq]
      rfl
  | enter meets =>
      rw [meets.ending_eq, ending, FileTree.walkFrom_eq]
      rfl
  | follow meets remain =>
      rw [meets.ending_eq, remain]
      exact FileTree.walkFrom_components_append meets.ends _ _ _

theorem ending_of_steps (steps : Relation.ReflTransGen (Step tree) walk last) :
    walk.ending tree = last.ending tree := by
  induction steps with
  | refl => rfl
  | tail _ step inductionHypothesis => rw [inductionHypothesis, step.ending_eq]

/-- Where the resolution ends, the walk ends in the same way. -/
theorem Stops.target_eq (stops : Stops tree walk target) : (walk.ending tree).target = target := by
  have notEmpty (further : SamplePath) :
      (SamplePath.components (SamplePath.slash :: further)).isEmpty = false := by
    rw [List.isEmpty_eq_false_iff, Ne, SamplePath.components_eq_nil_iff]
    simp
  cases stops with
  | directory =>
      rw [ending, FileTree.walkFrom_eq]
      rfl
  | file meets | device meets =>
      rw [meets.ending_eq]
      rfl
  | throughFile meets | throughDevice meets =>
      rw [meets.ending_eq, FileTree.atEntry, notEmpty]
      rfl
  | missing meets =>
      rw [meets.ending_eq, FileTree.atEntry]
      split <;> rfl
  | tooManyLinks meets noneRemain =>
      rw [meets.ending_eq, noneRemain]
      rfl
  | nameTooLong isName ends long =>
      have past : SamplePath.nameLimit < _ := long
      rw [ending, SamplePath.components_segment_append isName.nonempty isName.clear ends,
        FileTree.walkFrom_eq, FileTree.walkUntilLink, if_neg isName.notHere,
        if_neg isName.notParent, if_pos past]
      rfl

/-- The resolution of a path goes on or ends, wherever it has come to. -/
theorem exists_step_or_stops (tree : FileTree) (walk : PathWalk) :
    (∃ next, Step tree walk next) ∨ ∃ target, Stops tree walk target := by
  obtain ⟨place, left, links⟩ := walk
  by_cases atEnd : left = []
  · subst atEnd
    exact .inr ⟨_, .directory⟩
  by_cases atSlash : left.head? = some SamplePath.slash
  · obtain ⟨further, rfl⟩ := List.head?_eq_some_iff.mp atSlash
    exact .inl ⟨_, .slash⟩
  obtain ⟨name, rest, rfl, nonempty, clear, ends⟩ := SamplePath.exists_segment atEnd atSlash
  by_cases isHere : name = SamplePath.here
  · subst isHere
    exact .inl ⟨_, .here ends⟩
  by_cases isParent : name = SamplePath.parent
  · subst isParent
    exact .inl ⟨_, .parent ends⟩
  have isName : SamplePath.IsName name := ⟨nonempty, clear, isHere, isParent⟩
  by_cases long : 255 < name.length
  · exact .inr ⟨_, .nameTooLong isName ends long⟩
  have meets : Meets tree ⟨place, name ++ rest, links⟩ name rest (tree.lookup? place name) :=
    ⟨rfl, isName, ends, Nat.not_lt.mp long, rfl⟩
  generalize tree.lookup? place name = entry at meets
  cases entry with
  | none => exact .inr ⟨_, .missing meets⟩
  | some entry =>
      cases entry with
      | directory entries => exact .inl ⟨_, .enter meets⟩
      | link target =>
          cases links with
          | zero => exact .inr ⟨_, .tooManyLinks meets rfl⟩
          | succ links => exact .inl ⟨_, .follow meets rfl⟩
      | file content =>
          rcases ends with rfl | ⟨further, rfl⟩
          · exact .inr ⟨_, .file meets⟩
          · exact .inr ⟨_, .throughFile meets⟩
      | device =>
          rcases ends with rfl | ⟨further, rfl⟩
          · exact .inr ⟨_, .device meets⟩
          · exact .inr ⟨_, .throughDevice meets⟩

/-- A step follows a link, or it leaves less of the path and as many links. -/
theorem Step.decreases (step : Step tree walk next) :
    next.links < walk.links ∨ next.links = walk.links ∧ next.left.length < walk.left.length := by
  cases step with
  | slash => exact .inr ⟨rfl, by simp⟩
  | here | parent => exact .inr ⟨rfl, by simp [SamplePath.here, SamplePath.parent]⟩
  | enter meets =>
      have nonempty := List.length_pos_iff.mpr meets.isName.nonempty
      refine .inr ⟨rfl, ?_⟩
      rw [meets.left, List.length_append]
      dsimp only
      omega
  | follow meets remain => exact .inl (by dsimp only; omega)

/-- No path is resolved forever. -/
theorem wellFounded_step (tree : FileTree) : WellFounded fun next walk => Step tree walk next := by
  have ordered := InvImage.wf (fun walk : PathWalk => (walk.links, walk.left.length))
    (Prod.lex Nat.lt_wfRel Nat.lt_wfRel).wf
  refine Subrelation.wf ?_ ordered
  intro next walk step
  rcases step.decreases with fewer | ⟨same, shorter⟩
  · exact Prod.Lex.left _ _ fewer
  · rw [InvImage, same]
    exact Prod.Lex.right _ shorter

theorem exists_stops (tree : FileTree) (walk : PathWalk) :
    ∃ last target, Relation.ReflTransGen (Step tree) walk last ∧ Stops tree last target := by
  induction walk using (wellFounded_step tree).induction with
  | _ walk inductionHypothesis =>
      rcases exists_step_or_stops tree walk with ⟨next, step⟩ | ⟨target, stops⟩
      · obtain ⟨last, target, steps, stops⟩ := inductionHypothesis next step
        exact ⟨last, target, .head step steps, stops⟩
      · exact ⟨walk, target, .refl, stops⟩

end PathWalk

/-- What opening makes of what a path leads to. -/
def PathTarget.opened : PathTarget → Except OpenError Bytes
  | .file content => .ok content
  | .directory => .error .notRegular
  | .device => .error .notRegular
  | .failure error => .error (.unreachable error)

namespace PathTarget

variable {target : PathTarget}

theorem opened_eq_ok_iff {content : Bytes} :
    target.opened = .ok content ↔ target = .file content := by
  cases target <;> simp [opened]

theorem opened_eq_notRegular_iff :
    target.opened = .error .notRegular ↔ target = .directory ∨ target = .device := by
  cases target <;> simp [opened]

theorem opened_eq_unreachable_iff {reason : PathError} :
    target.opened = .error (.unreachable reason) ↔ target = .failure reason := by
  cases target <;> simp [opened]

end PathTarget

namespace FileTree

variable {tree : FileTree} {current : Place} {path : SamplePath} {target : PathTarget}

theorem leadsTo_iff :
    tree.LeadsTo current path target ↔ (tree.walk current path).target = target := by
  have walked (nonempty : path ≠ []) (short : path.length < 4096) :
      tree.walk current path = (PathWalk.mk (path.start current) path 40).ending tree := by
    have within : ¬ SamplePath.pathLimit ≤ path.length := Nat.not_le.mpr short
    rw [walk, if_neg (by simpa using nonempty), if_neg within]
    rfl
  constructor
  · rintro (_ | long | ⟨nonempty, short, steps, stops⟩)
    · rfl
    · have nonempty : ¬ path.isEmpty := by
        rw [List.isEmpty_iff]
        rintro rfl
        contradiction
      have past : SamplePath.pathLimit ≤ path.length := long
      rw [walk, if_neg nonempty, if_pos past]
      rfl
    · rw [walked nonempty short, PathWalk.ending_of_steps steps, stops.target_eq]
  · rintro rfl
    by_cases empty : path = []
    · rw [empty]
      exact .empty
    by_cases long : 4096 ≤ path.length
    · have past : SamplePath.pathLimit ≤ path.length := long
      rw [walk, if_neg (by simpa using empty), if_pos past]
      exact .tooLong long
    · obtain ⟨last, target, steps, stops⟩ :=
        PathWalk.exists_stops tree ⟨path.start current, path, 40⟩
      rw [walked empty (Nat.not_le.mp long), PathWalk.ending_of_steps steps, stops.target_eq]
      exact .resolved empty (Nat.not_le.mp long) steps stops

theorem existsUnique_leadsTo (tree : FileTree) (current : Place) (path : SamplePath) :
    ∃! target, tree.LeadsTo current path target := by
  refine ⟨(tree.walk current path).target, leadsTo_iff.mpr rfl, ?_⟩
  intro other leads
  exact (leadsTo_iff.mp leads).symm

theorem openSample_eq_opened (noNul : 0 ∉ path) (leads : tree.LeadsTo current path target) :
    tree.openSample current path = target.opened := by
  rw [openSample, if_neg (by simpa using noNul), ← leadsTo_iff.mp leads]
  cases tree.walk current path <;> rfl

theorem openSample_eq_iff (noNul : 0 ∉ path) {result : Except OpenError Bytes} :
    tree.openSample current path = result ↔
      ∃ target, tree.LeadsTo current path target ∧ target.opened = result := by
  constructor
  · rintro rfl
    obtain ⟨target, leads, _⟩ := existsUnique_leadsTo tree current path
    exact ⟨target, leads, (openSample_eq_opened noNul leads).symm⟩
  · rintro ⟨target, leads, rfl⟩
    exact openSample_eq_opened noNul leads

/-- Whether what is written in the links of a tree has names that are short enough. -/
inductive HasShortLinks : FileTree → Prop
  | file {content : Bytes} : HasShortLinks (.file content)
  | device : HasShortLinks .device
  | link {target : SamplePath} (short : target.HasShortNames) : HasShortLinks (.link target)
  | directory {entries : List (Bytes × FileTree)}
    (below : ∀ entry ∈ entries, HasShortLinks entry.2) : HasShortLinks (.directory entries)

theorem HasShortLinks.named? (short : tree.HasShortLinks) {name : Bytes} {entry : FileTree}
    (found : tree.named? name = some entry) : entry.HasShortLinks := by
  cases short with
  | directory below =>
      obtain ⟨pair, first, rfl⟩ := Option.map_eq_some_iff.mp found
      exact below pair (List.mem_of_find?_eq_some first)
  | file | device | link => contradiction

theorem HasShortLinks.lookup? (short : tree.HasShortLinks) {place : Place} {name : Bytes}
    {entry : FileTree} (found : tree.lookup? place name = some entry) : entry.HasShortLinks := by
  obtain ⟨directory, descended, named⟩ := Option.bind_eq_some_iff.mp found
  refine HasShortLinks.named? ?_ named
  clear found named
  generalize place.reverse = names at descended
  induction names generalizing tree with
  | nil =>
      cases descended
      exact short
  | cons outer names inductionHypothesis =>
      obtain ⟨below, isNamed, descended⟩ := Option.bind_eq_some_iff.mp descended
      exact inductionHypothesis (short.named? isNamed) descended

end FileTree

namespace SamplePath

variable {path target rest : SamplePath}

theorem hasShortNames_of_length_le (short : path.length ≤ 255) : path.HasShortNames :=
  fun _ inside _ => inside.length_le.trans short

theorem HasShortNames.of_suffix (short : path.HasShortNames) (suffix : rest <:+ path) :
    rest.HasShortNames :=
  fun name inside => short name (inside.trans suffix.isInfix)

/-- What is written in a link does not lengthen the name that it stands for. -/
theorem HasShortNames.append (short : target.HasShortNames) (shortRest : rest.HasShortNames)
    (ends : rest.EndsName) : HasShortNames (target ++ rest) := by
  intro name inside clear
  rcases List.infix_append_iff.mp inside with before | behind | ⟨front, back, rfl, isEnd, isStart⟩
  · exact short name before clear
  · exact shortRest name behind clear
  · have noBack : back = [] := by
      rcases ends with rfl | ⟨further, rfl⟩
      · exact List.prefix_nil.mp isStart
      · cases back with
        | nil => rfl
        | cons b back =>
            rw [List.cons_prefix_cons] at isStart
            exact absurd (List.mem_append_right _ (isStart.1 ▸ List.mem_cons_self)) clear
    rw [noBack, List.append_nil] at clear ⊢
    exact short front isEnd.isInfix clear

end SamplePath

namespace PathWalk

variable {tree : FileTree} {walk next last : PathWalk} {target : PathTarget}

theorem Step.hasShortNames (links : tree.HasShortLinks) (step : Step tree walk next)
    (short : walk.left.HasShortNames) : next.left.HasShortNames := by
  cases step with
  | slash => exact short.of_suffix (List.suffix_cons _ _)
  | here | parent => exact short.of_suffix (List.suffix_append _ _)
  | enter meets =>
      rw [meets.left] at short
      exact short.of_suffix (List.suffix_append _ _)
  | follow meets remain =>
      rw [meets.left] at short
      cases links.lookup? meets.entry with
      | link shortTarget =>
          exact shortTarget.append (short.of_suffix (List.suffix_append _ _)) meets.ends

/-- Where all names are short enough, none ends the resolution for its length. -/
theorem Stops.ne_nameTooLong (stops : Stops tree walk target) (short : walk.left.HasShortNames) :
    target ≠ .failure .nameTooLong := by
  cases stops with
  | nameTooLong isName _ long =>
      have within := short _ (List.prefix_append _ _).isInfix isName.clear
      exact absurd long (Nat.not_lt.mpr within)
  | directory | file | device | throughFile | throughDevice | missing | tooManyLinks => simp

theorem hasShortNames_of_steps (links : tree.HasShortLinks)
    (steps : Relation.ReflTransGen (Step tree) walk last) (short : walk.left.HasShortNames) :
    last.left.HasShortNames := by
  induction steps with
  | refl => exact short
  | tail _ step inductionHypothesis => exact step.hasShortNames links inductionHypothesis

end PathWalk

theorem FileTree.LeadsTo.ne_nameTooLong {tree : FileTree} {current : Place} {path : SamplePath}
    {target : PathTarget} (leads : tree.LeadsTo current path target) (links : tree.HasShortLinks)
    (names : path.HasShortNames) (short : path.length < 4096) :
    target ≠ .failure .nameTooLong := by
  rcases leads with _ | long | ⟨_, _, steps, stops⟩
  · simp
  · exact absurd short (Nat.not_lt.mpr long)
  · exact stops.ne_nameTooLong (PathWalk.hasShortNames_of_steps links steps names)

/-- The resolution of a path ends, in one way only. A sample is opened exactly if its path leads to
a regular file, and its length is that of what the file contains. What leads to anything else that
exists has one cause for its failure, what leads nowhere has as its second cause what the resolution
fails at, and that is no limit if all names keep within the limits. The causes show the path with a
replacement for each gap in its text. -/
theorem openSample_resolves_path (tree : FileTree) (current : Place) (path : SamplePath)
    (noNul : 0 ∉ path) :
    (WellFounded fun next walk => PathWalk.Step tree walk next) ∧
    (∃! target, tree.LeadsTo current path target) ∧
    (∀ content, tree.openSample current path = .ok content ↔
      tree.LeadsTo current path (.file content)) ∧
    (∀ settings content, (Probe.sample settings content).length = content.length) ∧
    (tree.openSample current path = .error .notRegular ↔
      tree.LeadsTo current path .directory ∨ tree.LeadsTo current path .device) ∧
    OpenError.causes path .notRegular =
      ["Failed to open ".toList ++ path.shown ++ ": not a regular file".toList] ∧
    (∀ reason, tree.openSample current path = .error (.unreachable reason) ↔
      tree.LeadsTo current path (.failure reason)) ∧
    (∀ reason, OpenError.causes path (.unreachable reason) =
      ["Failed to open ".toList ++ path.shown, reason.message]) ∧
    (tree.HasShortLinks → path.HasShortNames → path.length < 4096 →
      ¬ tree.LeadsTo current path (.failure .nameTooLong)) ∧
    Utf8.ShownAs path path.shown := by
  refine ⟨PathWalk.wellFounded_step tree, FileTree.existsUnique_leadsTo tree current path, ?_,
    fun _ _ => rfl, ?_, rfl, ?_, fun _ => rfl,
    fun links names short leads => leads.ne_nameTooLong links names short rfl,
    Utf8.shownAs_decodeLossy path⟩
  · intro content
    simp [FileTree.openSample_eq_iff noNul, PathTarget.opened_eq_ok_iff]
  · simp [FileTree.openSample_eq_iff noNul, PathTarget.opened_eq_notRegular_iff, and_or_left,
      exists_or]
  · intro reason
    simp [FileTree.openSample_eq_iff noNul, PathTarget.opened_eq_unreachable_iff]

/-- A directory with a file `f`, a link `u` that leads to the file by way of its parent, and a link
`l` that leads to itself. -/
def FileTree.linked : FileTree :=
  .directory [
    ([0x66], .file [0x4D, 0x5A]),
    ([0x75], .link [0x2E, 0x2E, 0x2F, 0x2F, 0x66]),
    ([0x6C], .link [0x6C])]

/-- `./u` leads to the file, `u/` asks it to be a directory, and `l/f` never gets past its link. -/
theorem openSample_resolves_links :
    FileTree.linked.LeadsTo [] [0x2E, 0x2F, 0x75] (.file [0x4D, 0x5A]) ∧
    FileTree.linked.LeadsTo [] [0x75, 0x2F] (.failure .notDirectory) ∧
    FileTree.linked.LeadsTo [] [0x6C, 0x2F, 0x66] (.failure .tooManyLinks) ∧
    ¬ FileTree.linked.LeadsTo [] [0x6C, 0x2F, 0x66] (.failure .nameTooLong) := by
  obtain ⟨_, _, opens, _⟩ :=
    openSample_resolves_path FileTree.linked [] [0x2E, 0x2F, 0x75] (by decide)
  obtain ⟨_, _, _, _, _, _, through, _⟩ :=
    openSample_resolves_path FileTree.linked [] [0x75, 0x2F] (by decide)
  obtain ⟨_, _, _, _, _, _, circles, _, withinLimits, _⟩ :=
    openSample_resolves_path FileTree.linked [] [0x6C, 0x2F, 0x66] (by decide)
  have links : FileTree.linked.HasShortLinks := by
    refine .directory ?_
    simp only [List.forall_mem_cons]
    refine ⟨.file, .link ?_, .link ?_, by simp⟩ <;>
      exact SamplePath.hasShortNames_of_length_le (by decide)
  exact ⟨(opens _).mp rfl, (through _).mp rfl, (circles _).mp rfl,
    withinLimits links (SamplePath.hasShortNames_of_length_le (by decide)) (by decide)⟩

end UploadProbe
