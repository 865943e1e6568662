import Mathlib
import UploadProbe.Proofs.Utf8
import UploadProbe.Url.Parser

/-!
# Characters of URLs

Each part of a URL that has been read avoids the characters that its form has no place for: the
parts that are encoded avoid what is encoded in them, and the name of a machine and the scheme avoid
everything that cannot be seen. So no text that is read as a URL, and no reference that leads from
one URL to another, brings a control character or the end of a line into a request or a message.
-/

namespace UploadProbe

namespace Text

/-- Whether no character of a text belongs to a set. -/
def Avoids (set : Char → Bool) (text : Text) : Prop :=
  ∀ c ∈ text, set c = false

instance (set : Char → Bool) (text : Text) : Decidable (Avoids set text) :=
  List.decidableBAll (fun c => set c = false) text

/-- Characters that do not show: blanks, control characters and everything past ASCII. -/
def isUnseen (c : Char) : Bool :=
  Percent.controls c || c = ' '

variable {set other : Char → Bool} {text more : Text}

theorem isUnseen_eq_false_iff {c : Char} :
    isUnseen c = false ↔ 33 ≤ c.toNat ∧ c.toNat ≤ 126 := by
  have isBlank : c = ' ' ↔ c.toNat = 32 := Char.toNat_inj.symm
  simp only [isUnseen, Percent.controls, Bool.or_eq_false_iff, decide_eq_false_iff_not, isBlank]
  change (¬c.toNat < 32 ∧ ¬126 < c.toNat) ∧ ¬c.toNat = 32 ↔ 33 ≤ c.toNat ∧ c.toNat ≤ 126
  omega

theorem isUnseen_of_isAlphanum {c : Char} (isAlphanum : c.isAlphanum = true) :
    isUnseen c = false := by
  rw [isUnseen_eq_false_iff]
  simp only [Char.isAlphanum, Char.isAlpha, Char.isUpper, Char.isLower, Char.isDigit,
    Bool.or_eq_true, Bool.and_eq_true, decide_eq_true_eq, ge_iff_le, UInt32.le_iff_toNat_le]
    at isAlphanum
  change ((65 ≤ c.toNat ∧ c.toNat ≤ 90) ∨ 97 ≤ c.toNat ∧ c.toNat ≤ 122) ∨
    48 ≤ c.toNat ∧ c.toNat ≤ 57 at isAlphanum
  omega

theorem isUnseen_lowerChar {c : Char} (seen : isUnseen c = false) :
    isUnseen (lowerChar c) = false := by
  rw [isUnseen_eq_false_iff] at seen ⊢
  unfold lowerChar
  split
  · next capital =>
    have small : c.toNat ≤ 90 := capital.2
    rw [Char.toNat_ofNat, if_pos (.inl (by omega))]
    omega
  · exact seen

theorem Avoids.mono (avoids : Avoids set text) (smaller : ∀ c, set c = false → other c = false) :
    Avoids other text :=
  fun c isMember => smaller c (avoids c isMember)

theorem avoids_nil : Avoids set [] := by
  simp [Avoids]

theorem avoids_cons {c : Char} : Avoids set (c :: text) ↔ set c = false ∧ Avoids set text := by
  simp [Avoids]

theorem avoids_append : Avoids set (text ++ more) ↔ Avoids set text ∧ Avoids set more := by
  simp [Avoids, or_imp, forall_and]

theorem mem_joinWith_iff {separator : Text} {c : Char} (clear : c ∉ separator)
    {pieces : List Text} : c ∈ joinWith separator pieces ↔ ∃ piece ∈ pieces, c ∈ piece := by
  induction pieces with
  | nil => simp [joinWith]
  | cons piece pieces inductionHypothesis =>
      cases pieces with
      | nil => simp [joinWith]
      | cons next pieces =>
          simp only [joinWith, List.mem_append, inductionHypothesis, clear, or_false,
            List.exists_mem_cons_iff]

theorem avoids_joinWith {separator : Text} (clear : Avoids set separator) {pieces : List Text}
    (avoids : ∀ piece ∈ pieces, Avoids set piece) : Avoids set (joinWith separator pieces) := by
  intro c isMember
  by_cases inSeparator : c ∈ separator
  · exact clear c inSeparator
  · obtain ⟨piece, isPiece, isMember⟩ := (mem_joinWith_iff inSeparator).mp isMember
    exact avoids piece isPiece c isMember

theorem avoids_toDigits {base : Nat} (atLeastTwo : 1 < base)
    (digits : ∀ digit < base, set digit.digitChar = false) (number : Nat) :
    Avoids set (base.toDigits number) := by
  induction number using Nat.strong_induction_on with
  | h number inductionHypothesis =>
      rw [Nat.toDigits_eq_if atLeastTwo]
      split
      · next small => exact avoids_cons.mpr ⟨digits number small, avoids_nil⟩
      · next large =>
          have less : number / base < number := Nat.div_lt_self (by omega) atLeastTwo
          have last := digits (number % base) (Nat.mod_lt number (by omega))
          exact avoids_append.mpr ⟨inductionHypothesis _ less, avoids_cons.mpr ⟨last, avoids_nil⟩⟩

theorem avoids_isUnseen_ofNat (number : Nat) : Avoids isUnseen (ofNat number) :=
  avoids_toDigits (by decide) (by decide) number

end Text

open Text

namespace Percent

/-- An encoded text avoids what codes avoid, and the characters that are not encoded. -/
theorem avoids_encode {set encoded : Char → Bool} (percent : set '%' = false)
    (digits : ∀ value < 16, set (digit value) = false) {text : Text}
    (plain : ∀ c ∈ text, encoded c = false → set c = false) : Avoids set (encode encoded text) := by
  intro c isMember
  obtain ⟨original, isOriginal, isMember⟩ := List.mem_flatMap.mp isMember
  split at isMember
  · obtain ⟨b, _, isMember⟩ := List.mem_flatMap.mp isMember
    have bound : b.toNat < 256 := b.toNat_lt
    simp only [octet, List.mem_cons, List.not_mem_nil, or_false] at isMember
    rcases isMember with rfl | rfl | rfl
    · exact percent
    · exact digits _ (by omega)
    · exact digits _ (by omega)
  · next notEncoded =>
    rw [List.mem_singleton.mp isMember]
    exact plain original isOriginal (by simpa using notEncoded)

theorem avoids_controls (text : Text) : Avoids controls (encode controls text) :=
  avoids_encode (by decide) (by decide) fun _ _ plain => plain

theorem avoids_pathSet (text : Text) : Avoids pathSet (encode pathSet text) :=
  avoids_encode (by decide) (by decide) fun _ _ plain => plain

theorem avoids_userinfoSet (text : Text) : Avoids userinfoSet (encode userinfoSet text) :=
  avoids_encode (by decide) (by decide) fun _ _ plain => plain

theorem avoids_fragmentSet (text : Text) : Avoids fragmentSet (encode fragmentSet text) :=
  avoids_encode (by decide) (by decide) fun _ _ plain => plain

theorem isUnseen_of_fragmentSet {c : Char} (plain : fragmentSet c = false) :
    isUnseen c = false := by
  simp_all [fragmentSet, isUnseen]

theorem fragmentSet_of_pathSet {c : Char} (plain : pathSet c = false) : fragmentSet c = false := by
  simp_all [pathSet]

theorem pathSet_of_userinfoSet {c : Char} (plain : userinfoSet c = false) : pathSet c = false := by
  simp_all [userinfoSet]

theorem isUnseen_of_querySet {c : Char} (plain : querySet c = false) : isUnseen c = false := by
  simp_all [querySet, isUnseen]

theorem controls_of_isUnseen {c : Char} (seen : isUnseen c = false) : controls c = false := by
  simp_all [isUnseen]

end Percent

/-- The ASCII form of a name shows everywhere. -/
theorem HostMapping.avoids_isUnseen [HostMapping] {octets : Bytes} {name : Text}
    (isAscii : toAscii? octets = some name) : Avoids isUnseen name := by
  intro c isMember
  have allowed := isAllowed_of_toAscii? octets name isAscii c isMember
  have isDelete : c = '\x7f' ↔ c.toNat = 127 := Char.toNat_inj.symm
  simp only [Domain.isAllowed, Domain.isForbidden, Bool.and_eq_true, Bool.not_eq_true',
    Bool.or_eq_false_iff, decide_eq_true_eq, decide_eq_false_iff_not, isDelete] at allowed
  have basic : c.toNat < 128 := allowed.1
  have seen : ¬c.toNat ≤ 32 := allowed.2.1.1
  exact isUnseen_eq_false_iff.mpr ⟨by omega, by omega⟩

namespace Host

theorem avoids_ipv4Text (address : Nat) : Avoids isUnseen (ipv4Text address) := by
  refine avoids_joinWith (by decide) ?_
  rintro _ isMember
  obtain ⟨number, _, rfl⟩ := List.mem_map.mp isMember
  exact avoids_isUnseen_ofNat number

theorem avoids_ipv6Text (pieces : List Nat) : Avoids isUnseen (ipv6Text pieces) := by
  have written (numbers : List Nat) :
      Avoids isUnseen (joinWith [':'] (numbers.map ofNatHex)) := by
    refine avoids_joinWith (by decide) ?_
    rintro _ isMember
    obtain ⟨number, _, rfl⟩ := List.mem_map.mp isMember
    exact avoids_toDigits (by decide) (by decide) number
  unfold ipv6Text
  dsimp only
  split
  · exact written pieces
  · exact avoids_append.mpr ⟨avoids_append.mpr ⟨written _, by decide⟩, written _⟩

/-- An address always shows; a name has to be one that was read. -/
theorem avoids_text {host : Host} (named : ∀ name, host = .domain name → Avoids isUnseen name) :
    Avoids isUnseen host.text := by
  cases host with
  | domain name => exact named name rfl
  | ipv4 address => exact avoids_ipv4Text address
  | ipv6 pieces =>
      exact avoids_append.mpr ⟨avoids_cons.mpr ⟨by decide, avoids_ipv6Text pieces⟩,
        avoids_cons.mpr ⟨by decide, avoids_nil⟩⟩

end Host

/-- Whether the parts of an authority hold only what has a place in them. -/
structure Authority.IsNormal (authority : Authority) : Prop where
  username : Avoids Percent.userinfoSet authority.username
  password : ∀ text ∈ authority.password, Avoids Percent.userinfoSet text
  host : Avoids isUnseen authority.host.text

/-- Whether segments hold only what has a place in a path. -/
def AreSegments (segments : List Text) : Prop :=
  ∀ segment ∈ segments, Avoids Percent.pathSet segment

def UrlPath.IsNormal : UrlPath → Prop
  | .opaquePath text => Avoids Percent.controls text
  | .segments parts => AreSegments parts

theorem areSegments_singleton_nil : AreSegments [[]] := by
  simp [AreSegments, avoids_nil]

theorem AreSegments.append {segments more : List Text} (areSegments : AreSegments segments)
    (areMore : AreSegments more) : AreSegments (segments ++ more) := by
  intro segment isMember
  exact (List.mem_append.mp isMember).elim (areSegments segment) (areMore segment)

theorem AreSegments.subset {segments fewer : List Text} (areSegments : AreSegments segments)
    (subset : fewer ⊆ segments) : AreSegments fewer :=
  fun segment isMember => areSegments segment (subset isMember)

/-- Whether the parts of a URL hold only what has a place in them. -/
structure Url.IsNormal (url : Url) : Prop where
  scheme : Avoids isUnseen url.scheme
  authority : ∀ authority ∈ url.authority, authority.IsNormal
  path : url.path.IsNormal
  query : ∀ text ∈ url.query, Avoids Percent.querySet text
  fragment : ∀ text ∈ url.fragment, Avoids Percent.fragmentSet text

namespace Url

/-- Whether what is read, if anything, has a property. -/
def Gives {α : Type} (P : α → Prop) (reading : Except UrlError α) : Prop :=
  ∀ value, reading = .ok value → P value

section Gives

variable {α β : Type} {P : α → Prop} {Q : β → Prop}

theorem gives_ok {value : α} (holds : P value) : Gives P (.ok value) := by
  rintro _ ⟨⟩
  exact holds

theorem gives_error (error : UrlError) : Gives P (.error error) := by
  rintro _ ⟨⟩

theorem Gives.bind {reading : Except UrlError α} {next : α → Except UrlError β}
    (gives : Gives P reading) (nextGives : ∀ value, P value → Gives Q (next value)) :
    Gives Q (reading >>= next) := by
  cases reading with
  | error error => exact gives_error error
  | ok value => exact nextGives value (gives value rfl)

theorem gives_bind {reading : Except UrlError α} {next : α → Except UrlError β}
    (nextGives : ∀ value, Gives Q (next value)) : Gives Q (reading >>= next) := by
  cases reading with
  | error error => exact gives_error error
  | ok value => exact nextGives value

end Gives

theorem readUserinfo_avoids (text : Text) :
    Avoids Percent.userinfoSet (readUserinfo text).1 ∧
      ∀ password ∈ (readUserinfo text).2, Avoids Percent.userinfoSet password := by
  unfold readUserinfo
  extract_lets encode
  split
  · exact ⟨Percent.avoids_userinfoSet _, by simp⟩
  · refine ⟨Percent.avoids_userinfoSet _, fun password isPassword => ?_⟩
    dsimp only at isPassword
    split at isPassword
    · cases isPassword
    · cases isPassword
      exact Percent.avoids_userinfoSet _

theorem areSegments_addSegments {segments : List Text} (areSegments : AreSegments segments)
    (pieces : List Text) : AreSegments (addSegments segments pieces) := by
  induction pieces generalizing segments with
  | nil => exact areSegments
  | cons piece pieces inductionHypothesis =>
      have closing : AreSegments (if pieces.isEmpty then [[]] else []) := by
        split
        · exact areSegments_singleton_nil
        · exact List.forall_mem_nil _
      rw [addSegments]
      split
      · exact inductionHypothesis
          ((areSegments.subset (List.dropLast_subset segments)).append closing)
      split
      · exact inductionHypothesis (areSegments.append closing)
      · have encoded : AreSegments [Percent.encode Percent.pathSet piece] :=
          List.forall_mem_singleton.mpr (Percent.avoids_pathSet piece)
        exact inductionHypothesis (areSegments.append encoded)

theorem areSegments_rootSegments (kind : SchemeKind) (text : Text) :
    AreSegments (rootSegments kind text) := by
  have nothing : AreSegments [] := List.forall_mem_nil _
  unfold rootSegments
  split
  · split
    · exact nothing
    · exact areSegments_singleton_nil
  · split
    · exact areSegments_addSegments nothing _
    · exact areSegments_addSegments nothing _

theorem areSegments_fileSegments (text : Text) : AreSegments (fileSegments text) := by
  unfold fileSegments
  split
  · exact areSegments_singleton_nil
  · exact (areSegments_rootSegments .file text).subset (List.dropWhile_suffix _).subset

theorem isNormal_withTail {scheme : Text} {authority : Option Authority} {path : UrlPath}
    (schemeAvoids : Avoids isUnseen scheme)
    (authorityNormal : ∀ present ∈ authority, present.IsNormal) (pathNormal : path.IsNormal)
    (query fragment : Option Text) :
    (withTail scheme authority path query fragment).IsNormal where
  scheme := schemeAvoids
  authority := authorityNormal
  path := pathNormal
  query text isQuery := by
    obtain ⟨original, _, rfl⟩ := Option.map_eq_some_iff.mp isQuery
    unfold normalQuery
    split
    · exact Percent.avoids_encode (by decide) (by decide) fun _ _ plain => plain
    · refine Percent.avoids_encode (by decide) (by decide) fun c _ plain => ?_
      exact (Bool.or_eq_false_iff.mp plain).1
  fragment text isFragment := by
    obtain ⟨original, _, rfl⟩ := Option.map_eq_some_iff.mp isFragment
    exact Percent.avoids_fragmentSet original

/-- The URL of a file on a machine, by what stands behind the machine. -/
def fileUrl (host : Host) (behind : Text) : Url :=
  withTail fileScheme (some { host }) (.segments (fileSegments (cutTail behind).1))
    (cutTail behind).2.1 (cutTail behind).2.2

theorem areSegments_baseSegments {base : Url} (isNormal : base.IsNormal) :
    AreSegments (baseSegments base) := by
  have pathNormal := isNormal.path
  unfold baseSegments
  split
  · next segments isPath =>
    rw [isPath] at pathNormal
    exact AreSegments.subset pathNormal (List.dropLast_subset segments)
  · exact List.forall_mem_nil _

theorem isNormal_withFragment {url : Url} (isNormal : url.IsNormal) (fragment : Option Text) :
    IsNormal { url with fragment := fragment.map normalFragment } where
  scheme := isNormal.scheme
  authority := isNormal.authority
  path := isNormal.path
  query := isNormal.query
  fragment text isFragment := by
    obtain ⟨original, _, rfl⟩ := Option.map_eq_some_iff.mp isFragment
    exact Percent.avoids_fragmentSet original

theorem avoids_of_splitScheme? {text scheme rest : Text}
    (splits : splitScheme? text = some (scheme, rest)) : Avoids isUnseen scheme := by
  unfold splitScheme? at splits
  extract_lets isSchemeChar at splits
  split at splits
  · next first others _ isPrefix _ =>
    split at splits
    · cases splits
      intro c isMember
      obtain ⟨original, isOriginal, rfl⟩ := List.mem_map.mp isMember
      rw [← isPrefix] at isOriginal
      have isChar : isSchemeChar original = true := List.mem_takeWhile_imp isOriginal
      simp only [isSchemeChar, Bool.or_eq_true, decide_eq_true_eq] at isChar
      refine isUnseen_lowerChar ?_
      rcases isChar with ((isAlphanum | rfl) | rfl) | rfl
      · exact isUnseen_of_isAlphanum isAlphanum
      · decide
      · decide
      · decide
    · cases splits
  · cases splits

variable [HostMapping]

theorem readHost_gives (text : Text) : Gives (fun host => Avoids isUnseen host.text)
    (readHost text) := by
  intro host reads
  refine Host.avoids_text ?_
  rintro name rfl
  unfold readHost at reads
  split at reads
  · split at reads
    · split at reads <;> cases reads
    · cases reads
  · split at reads
    · cases reads
    · next isAscii =>
      split at reads
      · cases reads
      split at reads
      · split at reads <;> cases reads
      · cases reads
        exact HostMapping.avoids_isUnseen isAscii

theorem readOpaqueHost_gives (text : Text) : Gives (fun host => Avoids isUnseen host.text)
    (readOpaqueHost text) := by
  unfold readOpaqueHost
  split
  · exact readHost_gives _
  split
  · exact gives_error _
  next allowed =>
  refine gives_ok (Percent.avoids_encode (by decide) (by decide) fun c isMember plain => ?_)
  have notBlank : c ≠ ' ' := by
    rintro rfl
    exact allowed (List.any_eq_true.mpr ⟨' ', isMember, by decide⟩)
  simp [isUnseen, plain, notBlank]

theorem readHostAndPort_gives (scheme text : Text) :
    Gives (fun read => Avoids isUnseen read.1.text) (readHostAndPort scheme text) := by
  unfold readHostAndPort
  extract_lets kind
  split
  next hostText behind _ =>
  extract_lets withPort
  have withPort_gives (host : Host) (avoids : Avoids isUnseen host.text) :
      Gives (fun read => Avoids isUnseen read.1.text) (withPort host) := by
    dsimp only [withPort]
    split
    · split
      · exact gives_error _
      · exact gives_bind fun _ => gives_ok avoids
    · exact gives_ok avoids
  split
  · exact gives_error _
  split
  · exact (readOpaqueHost_gives _).bind withPort_gives
  · exact (readHost_gives _).bind withPort_gives

theorem readAuthority_gives (scheme text : Text) (isLast : Bool) :
    Gives Authority.IsNormal (readAuthority scheme text isLast) := by
  have plain (read : Host × Option Nat) (avoids : Avoids isUnseen read.1.text) :
      Gives Authority.IsNormal (.ok { host := read.1, port := read.2 }) :=
    gives_ok ⟨avoids_nil, by simp, avoids⟩
  unfold readAuthority
  split
  · exact (readHostAndPort_gives _ _).bind plain
  · split
    · exact gives_error _
    · exact (readHostAndPort_gives _ _).bind plain
  · next userinfo hostText _ _ =>
    have userinfoAvoids := readUserinfo_avoids userinfo
    generalize readUserinfo userinfo = read at userinfoAvoids ⊢
    rcases read with ⟨username, password⟩
    refine (readHostAndPort_gives _ _).bind fun read avoids => ?_
    dsimp only
    split
    · exact gives_error _
    · exact gives_ok ⟨userinfoAvoids.1, userinfoAvoids.2, avoids⟩

theorem readAfterSlashes_gives {scheme : Text} (schemeAvoids : Avoids isUnseen scheme)
    (text : Text) : Gives IsNormal (readAfterSlashes scheme text) := by
  unfold readAfterSlashes
  extract_lets kind authorityText rest
  refine (readAuthority_gives _ _ _).bind fun authority isNormal => ?_
  refine gives_ok (isNormal_withTail schemeAvoids (by simpa using isNormal) ?_ _ _)
  exact areSegments_rootSegments _ _

theorem readFile_cases (text : Text) :
    Gives (fun url => ∃ host behind, Avoids isUnseen host.text ∧ url = fileUrl host behind)
      (readFile text) := by
  have finish (host : Host) (avoids : Avoids isUnseen host.text) (behind : Text) :
      Gives (fun url => ∃ host behind, Avoids isUnseen host.text ∧ url = fileUrl host behind)
        (.ok (fileUrl host behind)) :=
    gives_ok ⟨host, behind, avoids, rfl⟩
  have noMachine := finish (.domain []) avoids_nil
  unfold readFile
  extract_lets
  split
  · split
    · extract_lets hostText
      split
      · exact noMachine _
      split
      · exact noMachine _
      · refine (readHost_gives _).bind fun host avoids => ?_
        extract_lets machine
        refine finish _ ?_ _
        dsimp only [machine]
        split
        · exact avoids_nil
        · exact avoids
    · exact noMachine (_ :: _ :: _)
  · exact noMachine _

theorem readFile_gives (text : Text) : Gives IsNormal (readFile text) := by
  intro url reads
  obtain ⟨host, behind, avoids, rfl⟩ := readFile_cases text url reads
  have isNormal : Authority.IsNormal { host } := ⟨avoids_nil, by simp, avoids⟩
  have areSegments : UrlPath.IsNormal (.segments (fileSegments (cutTail behind).1)) :=
    areSegments_fileSegments _
  exact isNormal_withTail (by decide) (by simpa using isNormal) areSegments _ _

theorem readOther_gives {scheme : Text} (schemeAvoids : Avoids isUnseen scheme) (text : Text) :
    Gives IsNormal (readOther scheme text) := by
  unfold readOther
  split
  · exact readAfterSlashes_gives schemeAvoids _
  · refine gives_ok (isNormal_withTail schemeAvoids (by simp) ?_ _ _)
    split
    · exact areSegments_rootSegments _ _
    · exact Percent.avoids_controls _

theorem readRelative_gives {base : Url} (isNormal : base.IsNormal) (text : Text) :
    Gives IsNormal (readRelative base text) := by
  unfold readRelative
  extract_lets kind
  split
  next pathText query fragment _ =>
  split
  · split
    · exact gives_ok (isNormal_withTail isNormal.scheme isNormal.authority isNormal.path _ _)
    · exact gives_ok (isNormal_withFragment isNormal _)
  · split
    · split
      · split
        · exact readAfterSlashes_gives isNormal.scheme _
        · exact readAfterSlashes_gives isNormal.scheme _
      · refine gives_ok (isNormal_withTail isNormal.scheme isNormal.authority ?_ _ _)
        exact areSegments_addSegments (List.forall_mem_nil _) _
    · refine gives_ok (isNormal_withTail isNormal.scheme isNormal.authority ?_ _ _)
      exact areSegments_addSegments (areSegments_baseSegments isNormal) _

/-- What holds of the URLs that each of the readers gives holds of every URL that is read. -/
theorem gives_readWith {P : Url → Prop} {base : Option Url}
    (afterSlashes : ∀ scheme text, Avoids isUnseen scheme → Gives P (readAfterSlashes scheme text))
    (file : ∀ text, Gives P (readFile text))
    (other : ∀ scheme text, Avoids isUnseen scheme → kindOf scheme = .other →
      Gives P (readOther scheme text))
    (relative : ∀ url ∈ base, ∀ text, Gives P (readRelative url text))
    (fragment : ∀ url ∈ base, ∀ text : Text,
      P { url with fragment := some (normalFragment text) }) (text : Text) :
    Gives P (readWith base text) := by
  unfold readWith
  extract_lets cleaned
  clear_value cleaned
  split
  · next scheme rest splits =>
    have schemeAvoids := avoids_of_splitScheme? splits
    unfold readBehindScheme
    split
    · exact file _
    · next isOther => exact other _ _ schemeAvoids isOther
    · extract_lets slashes
      split
      · next base =>
        split
        · exact relative base rfl _
        · exact afterSlashes _ _ schemeAvoids
      · exact afterSlashes _ _ schemeAvoids
  · split
    · exact gives_error _
    · next base =>
      split
      · split
        · exact gives_ok (fragment base rfl _)
        · exact gives_error _
      · exact relative base rfl _

/-- Whatever is read as a URL, and at whatever normal URL it is found, is normal. -/
theorem readWith_gives {base : Option Url} (isNormal : ∀ url ∈ base, url.IsNormal) (text : Text) :
    Gives IsNormal (readWith base text) := by
  apply gives_readWith
  · exact fun _ text schemeAvoids => readAfterSlashes_gives schemeAvoids text
  · exact readFile_gives
  · exact fun _ text schemeAvoids _ => readOther_gives schemeAvoids text
  · exact fun url isBase => readRelative_gives (isNormal url isBase)
  · exact fun url isBase text => isNormal_withFragment (isNormal url isBase) (some text)

theorem isNormal_of_read {text : Text} {url : Url} (reads : read text = .ok url) : url.IsNormal :=
  readWith_gives (by simp) text url reads

theorem isNormal_of_resolve {base url : Url} {reference : Text} (isNormal : base.IsNormal)
    (resolves : base.resolve reference = .ok url) : url.IsNormal :=
  readWith_gives (by simpa using isNormal) reference url resolves

end Url

namespace Percent

theorem isUnseen_of_pathSet {c : Char} (plain : pathSet c = false) : isUnseen c = false :=
  isUnseen_of_fragmentSet (fragmentSet_of_pathSet plain)

theorem isUnseen_of_userinfoSet {c : Char} (plain : userinfoSet c = false) : isUnseen c = false :=
  isUnseen_of_pathSet (pathSet_of_userinfoSet plain)

end Percent

namespace Authority

variable {authority : Authority}

theorem IsNormal.hostAndPort_avoids (isNormal : authority.IsNormal) :
    Avoids isUnseen authority.hostAndPort := by
  refine avoids_append.mpr ⟨isNormal.host, ?_⟩
  cases authority.port with
  | none => exact avoids_nil
  | some port => exact avoids_cons.mpr ⟨by decide, avoids_isUnseen_ofNat port⟩

theorem IsNormal.text_avoids (isNormal : authority.IsNormal) :
    Avoids isUnseen authority.text := by
  refine avoids_append.mpr ⟨?_, isNormal.hostAndPort_avoids⟩
  unfold userinfoText
  split
  · exact avoids_nil
  have username := isNormal.username.mono fun _ => Percent.isUnseen_of_userinfoSet
  refine avoids_append.mpr ⟨avoids_append.mpr ⟨username, ?_⟩, by decide⟩
  cases isPassword : authority.password with
  | none => exact avoids_nil
  | some password =>
      have avoids := isNormal.password password isPassword
      exact avoids_cons.mpr
        ⟨by decide, avoids.mono fun _ => Percent.isUnseen_of_userinfoSet⟩

end Authority

namespace UrlPath

theorem avoids_segments {segments : List Text} (areSegments : AreSegments segments) :
    Avoids isUnseen (UrlPath.segments segments).text := by
  intro c isMember
  obtain ⟨segment, isSegment, isMember⟩ := List.mem_flatMap.mp isMember
  rcases List.mem_cons.mp isMember with rfl | isMember
  · decide
  · exact Percent.isUnseen_of_pathSet (areSegments segment isSegment c isMember)

theorem IsNormal.text_avoids {path : UrlPath} (isNormal : path.IsNormal) :
    Avoids Percent.controls path.text := by
  cases path with
  | opaquePath text => exact isNormal
  | segments segments =>
      exact (avoids_segments isNormal).mono fun _ => Percent.controls_of_isUnseen

end UrlPath

namespace Url

variable {url : Url}

/-- The text of a normal URL holds no control character. Blanks can stand in an opaque path. -/
theorem IsNormal.text_avoids (isNormal : url.IsNormal) : Avoids Percent.controls url.text := by
  have seen {text : Text} (avoids : Avoids isUnseen text) : Avoids Percent.controls text :=
    avoids.mono fun _ => Percent.controls_of_isUnseen
  have queryAvoids : Avoids Percent.controls (url.query.elim [] ('?' :: ·)) := by
    cases isQuery : url.query with
    | none => exact avoids_nil
    | some query =>
        have avoids := (isNormal.query query isQuery).mono fun _ => Percent.isUnseen_of_querySet
        exact avoids_cons.mpr ⟨by decide, seen avoids⟩
  have fragmentAvoids : Avoids Percent.controls (url.fragment.elim [] ('#' :: ·)) := by
    cases isFragment : url.fragment with
    | none => exact avoids_nil
    | some fragment =>
        have avoids :=
          (isNormal.fragment fragment isFragment).mono fun _ => Percent.isUnseen_of_fragmentSet
        exact avoids_cons.mpr ⟨by decide, seen avoids⟩
  have guardAvoids : Avoids Percent.controls url.pathGuard := by
    unfold pathGuard
    split
    · decide
    · exact avoids_nil
  have authorityAvoids : Avoids Percent.controls
      (':' :: url.authority.elim [] fun authority => '/' :: '/' :: authority.text) := by
    cases isAuthority : url.authority with
    | none => decide
    | some authority =>
        have avoids := (isNormal.authority authority isAuthority).text_avoids
        exact avoids_cons.mpr ⟨by decide, avoids_cons.mpr ⟨by decide, avoids_cons.mpr
          ⟨by decide, seen avoids⟩⟩⟩
  simp only [text, avoids_append]
  exact ⟨⟨⟨⟨⟨seen isNormal.scheme, authorityAvoids⟩, guardAvoids⟩, isNormal.path.text_avoids⟩,
    queryAvoids⟩, fragmentAvoids⟩

theorem IsNormal.withoutUserinfo (isNormal : url.IsNormal) : url.withoutUserinfo.IsNormal where
  scheme := isNormal.scheme
  authority authority isAuthority := by
    obtain ⟨original, isOriginal, rfl⟩ := Option.map_eq_some_iff.mp isAuthority
    exact ⟨avoids_nil, by simp, (isNormal.authority original isOriginal).host⟩
  path := isNormal.path
  query := isNormal.query
  fragment := isNormal.fragment

end Url

end UploadProbe
