import Mathlib
import UploadProbe.Proofs.UrlCharacters
import UploadProbe.Url.Sendable

/-!
# Paths from the root

A URL of a special scheme has a path that begins with a slash, whether it has been read of a text of
its own or of a reference at another such URL. The schemes of the web are special ones.
-/

namespace UploadProbe

/-- Whether the path of a URL begins with a slash. -/
def Url.IsRooted (url : Url) : Prop :=
  ∃ first rest, url.path = .segments (first :: rest)

namespace Url

theorem kindOf_of_isWebScheme {url : Url} (ofWeb : url.isWebScheme = true) :
    kindOf url.scheme = .special := by
  rw [isWebScheme, Bool.or_eq_true, decide_eq_true_eq, decide_eq_true_eq] at ofWeb
  rcases ofWeb with same | same
  · rw [same]
    decide
  · rw [same]
    decide

/-- Whether a URL begins its path with a slash if its scheme asks for that. -/
def IsRootedIfSpecial (url : Url) : Prop :=
  kindOf url.scheme = .special → url.IsRooted

theorem isRooted_of_segments {url : Url} {segments : List Text} (nonempty : segments ≠ [])
    (isPath : url.path = .segments segments) : url.IsRooted := by
  cases segments with
  | nil => contradiction
  | cons first rest => exact ⟨first, rest, isPath⟩

theorem addSegments_ne_nil {pieces : List Text} (nonempty : pieces ≠ []) (segments : List Text) :
    addSegments segments pieces ≠ [] := by
  induction pieces generalizing segments with
  | nil => contradiction
  | cons piece rest inductionHypothesis =>
      rw [addSegments]
      cases rest with
      | nil =>
          simp only [addSegments, List.isEmpty_nil, if_true]
          split
          · simp
          · split <;> simp
      | cons next rest =>
          split
          · exact inductionHypothesis (by simp) _
          split
          · exact inductionHypothesis (by simp) _
          · exact inductionHypothesis (by simp) _

theorem splitSlashes_ne_nil (kind : SchemeKind) (text : Text) : splitSlashes kind text ≠ [] := by
  cases text with
  | nil => simp [splitSlashes]
  | cons c text =>
      rw [splitSlashes]
      split
      · simp
      · split <;> simp

theorem addSegments_splitSlashes_ne_nil (segments : List Text) (kind : SchemeKind) (text : Text) :
    addSegments segments (splitSlashes kind text) ≠ [] :=
  addSegments_ne_nil (splitSlashes_ne_nil kind text) segments

theorem rootSegments_ne_nil {kind : SchemeKind} (special : kind = .special) (text : Text) :
    rootSegments kind text ≠ [] := by
  unfold rootSegments
  split
  · simp [special]
  · split
    · exact addSegments_splitSlashes_ne_nil _ _ _
    · exact addSegments_splitSlashes_ne_nil _ _ _

theorem fileSegments_ne_nil (text : Text) : fileSegments text ≠ [] := by
  unfold fileSegments
  split
  · simp
  · next nonempty => exact nonempty

variable [HostMapping]

theorem readAfterSlashes_rooted (scheme text : Text) :
    Gives IsRootedIfSpecial (readAfterSlashes scheme text) := by
  unfold readAfterSlashes
  extract_lets kind authorityText rest
  refine gives_bind fun authority => gives_ok fun special => ?_
  exact isRooted_of_segments (rootSegments_ne_nil special _) rfl

theorem readRelative_rooted {base : Url} (isRooted : base.IsRootedIfSpecial) (text : Text) :
    Gives IsRootedIfSpecial (readRelative base text) := by
  unfold readRelative
  extract_lets kind
  split
  next pathText query fragment _ =>
  split
  · split
    · exact gives_ok isRooted
    · exact gives_ok isRooted
  · split
    · split
      · split
        · exact readAfterSlashes_rooted _ _
        · exact readAfterSlashes_rooted _ _
      · exact gives_ok fun _ => isRooted_of_segments (addSegments_splitSlashes_ne_nil _ _ _) rfl
    · exact gives_ok fun _ => isRooted_of_segments (addSegments_splitSlashes_ne_nil _ _ _) rfl

theorem readFile_rooted (text : Text) : Gives IsRootedIfSpecial (readFile text) := by
  intro url reads
  obtain ⟨host, behind, -, rfl⟩ := readFile_cases text url reads
  exact fun _ => isRooted_of_segments (fileSegments_ne_nil _) rfl

theorem readOther_rooted {scheme : Text} (isOther : kindOf scheme = .other) (text : Text) :
    Gives IsRootedIfSpecial (readOther scheme text) := by
  unfold readOther
  split
  · exact readAfterSlashes_rooted _ _
  · refine gives_ok fun special => ?_
    have special : kindOf scheme = .special := special
    rw [isOther] at special
    contradiction

/-- A URL is rooted if it has to be, at whatever URL of that kind it is found. -/
theorem readWith_rooted {base : Option Url} (isRooted : ∀ url ∈ base, IsRootedIfSpecial url)
    (text : Text) : Gives IsRootedIfSpecial (readWith base text) := by
  apply gives_readWith
  · exact fun scheme text _ => readAfterSlashes_rooted scheme text
  · exact readFile_rooted
  · exact fun _ text _ isOther => readOther_rooted isOther text
  · exact fun url isBase => readRelative_rooted (isRooted url isBase)
  · exact fun url isBase _ => isRooted url isBase

theorem isRooted_of_read {text : Text} {url : Url} (reads : read text = .ok url)
    (ofWeb : url.isWebScheme = true) : url.IsRooted :=
  readWith_rooted (by simp) text url reads (kindOf_of_isWebScheme ofWeb)

theorem isRooted_of_resolve {base url : Url} {reference : Text} (isRooted : base.IsRooted)
    (resolves : base.resolve reference = .ok url) (ofWeb : url.isWebScheme = true) :
    url.IsRooted := by
  have baseRooted : ∀ present ∈ some base, IsRootedIfSpecial present := by
    rintro _ ⟨⟩ -
    exact isRooted
  exact readWith_rooted baseRooted reference url resolves (kindOf_of_isWebScheme ofWeb)

end Url

end UploadProbe
