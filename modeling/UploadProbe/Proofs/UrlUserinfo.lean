import Mathlib
import UploadProbe.Proofs.RootedUrls

/-!
# User names and passwords in URLs

What stands in front of the last at sign of an authority is read apart from the rest. So the text of
a URL of the web can do without it: what is read then is the same URL without a user name and a
password. Nothing else of the URL depends on them, nor does what a reference leads to.
-/

namespace UploadProbe.Url

open Text

theorem isMargin_of_isIgnored {c : Char} (ignored : isIgnored c = true) : isMargin c = true := by
  simp only [isIgnored, Bool.or_eq_true, decide_eq_true_eq] at ignored
  rcases ignored with (rfl | rfl) | rfl <;> decide

/-- Whether nothing is dropped of a text when it is read. -/
structure IsClean (text : Text) : Prop where
  noneIgnored : ∀ c ∈ text, isIgnored c = false
  first : ∀ c ∈ text.head?, isMargin c = false
  last : ∀ c ∈ text.getLast?, isMargin c = false

theorem isClean_clean (text : Text) : IsClean (clean text) := by
  have kept {c : Char} (inside : isMargin c = false) : isIgnored c = false :=
    Bool.eq_false_iff.mpr fun ignored => by simp [isMargin_of_isIgnored ignored] at inside
  have trimmed : trim isMargin text = (text.dropWhile isMargin).rdropWhile isMargin := rfl
  refine ⟨?_, ?_, ?_⟩
  · intro c member
    simpa using (List.mem_filter.mp member).2
  · intro c first
    cases isTrimmed : trim isMargin text with
    | nil => simp [clean, isTrimmed] at first
    | cons begin rest =>
        have inside : isMargin begin = false := by
          obtain ⟨dropped, whole⟩ := List.rdropWhile_prefix isMargin (l := text.dropWhile isMargin)
          have starts := List.head?_dropWhile_not isMargin text
          rw [← trimmed, isTrimmed, List.cons_append] at whole
          rw [← whole] at starts
          simpa using starts
        have same : begin = c := by simpa [clean, isTrimmed, kept inside] using first
        rwa [← same]
  · intro c last
    rcases List.eq_nil_or_concat (trim isMargin text) with nothing | ⟨rest, final, isTrimmed⟩
    · simp [clean, nothing] at last
    · have inside : isMargin final = false := by
        have nonempty : trim isMargin text ≠ [] := by simp [isTrimmed]
        have ends := List.rdropWhile_last_not isMargin (text.dropWhile isMargin) nonempty
        simp only [← trimmed, isTrimmed] at ends
        simpa using ends
      have same : final = c := by simpa [clean, isTrimmed, kept inside] using last
      rwa [← same]

theorem clean_of_isClean {text : Text} (isClean : IsClean text) : clean text = text := by
  have noMargin : trim isMargin text = text := by
    have front : text.dropWhile isMargin = text := by
      cases text with
      | nil => rfl
      | cons c rest => rw [List.dropWhile_cons_of_neg (by simp [isClean.first c rfl])]
    change (text.dropWhile isMargin).rdropWhile isMargin = text
    rw [front, List.rdropWhile_eq_self_iff]
    intro nonempty
    simp [isClean.last _ (List.getLast?_eq_some_getLast nonempty)]
  rw [clean, noMargin, List.filter_eq_self]
  intro c member
  simp [isClean.noneIgnored c member]

/-- A text stays clean if something inside it is left out. -/
theorem IsClean.of_inner {before inner behind : Text}
    (isClean : IsClean (before ++ inner ++ behind)) (begins : before ≠ []) (ends : behind ≠ []) :
    IsClean (before ++ behind) where
  noneIgnored c member := by
    apply isClean.noneIgnored
    simp only [List.mem_append] at member ⊢
    tauto
  first c isFirst := by
    apply isClean.first
    rwa [List.append_assoc, List.head?_append_of_ne_nil _ begins,
      ← List.head?_append_of_ne_nil _ begins]
  last c isLast := by
    apply isClean.last
    rwa [List.getLast?_append_of_ne_nil _ ends, ← List.getLast?_append_of_ne_nil _ ends]

/-- What stands behind the last at sign, or everything if there is none. -/
def behindUserinfo (text : Text) : Text :=
  (cutAtLastAt text).elim text Prod.snd

/-- A text that begins with an authority, without what stands in front of the host there. -/
def dropUserinfo (text : Text) : Text :=
  behindUserinfo (text.takeWhile (!endsAuthority .special ·)) ++
    text.dropWhile (!endsAuthority .special ·)

/-- The text of a URL of the web without its user name and its password: between the slashes behind
the scheme and what ends the authority, everything up to the last at sign is left out. -/
def removeUserinfo (text : Text) : Text :=
  let text := clean text
  match splitScheme? text with
  | none => text
  | some (_, rest) =>
    let behindSlashes := rest.dropWhile (isSlash .special)
    text.take (text.length - behindSlashes.length) ++ dropUserinfo behindSlashes

theorem cutAtLastAt_cases (text : Text) :
    ('@' ∉ text ∧ cutAtLastAt text = none) ∨
      ∃ userinfo hostText, cutAtLastAt text = some (userinfo, hostText) ∧ '@' ∉ hostText ∧
        hostText <:+ text := by
  unfold cutAtLastAt
  split
  · refine Or.inr ⟨_, _, rfl, ?_, List.rtakeWhile_suffix _ text⟩
    intro member
    simpa using List.mem_rtakeWhile_imp (l := text) member
  · next absent => exact Or.inl ⟨by simpa using absent, rfl⟩

theorem at_notMem_behindUserinfo (text : Text) : '@' ∉ behindUserinfo text := by
  rcases cutAtLastAt_cases text with ⟨absent, uncut⟩ | ⟨userinfo, hostText, cut, absent, -⟩
  · rwa [behindUserinfo, uncut]
  · rwa [behindUserinfo, cut]

theorem behindUserinfo_suffix (text : Text) : behindUserinfo text <:+ text := by
  rcases cutAtLastAt_cases text with ⟨absent, uncut⟩ | ⟨userinfo, hostText, cut, -, isBehind⟩
  · rw [behindUserinfo, uncut]
    exact List.suffix_rfl
  · rwa [behindUserinfo, cut]

/-- The scheme and its colon stand in front of what is split off, whatever that is. -/
theorem splitScheme?_front {text scheme rest : Text}
    (splits : splitScheme? text = some (scheme, rest)) :
    ∃ front, front ≠ [] ∧ text = front ++ rest ∧
      ∀ other, splitScheme? (front ++ other) = some (scheme, other) := by
  unfold splitScheme? at splits
  extract_lets isSchemeChar at splits
  split at splits
  · next first others _ isPrefix isRest =>
    split at splits
    · next isAlpha =>
      cases splits
      have whole := List.takeWhile_append_dropWhile (p := isSchemeChar) (l := text)
      rw [isPrefix, isRest] at whole
      refine ⟨first :: others ++ [':'], by simp, by rw [← whole]; simp, ?_⟩
      intro other
      have schemeChars : ∀ c ∈ first :: others, isSchemeChar c = true := by
        rw [← isPrefix]
        exact fun c member => List.mem_takeWhile_imp member
      have colon : isSchemeChar ':' = false := by decide
      have taken : (first :: others ++ [':'] ++ other).takeWhile isSchemeChar =
          first :: others := by
        rw [List.append_assoc, List.takeWhile_append_of_pos schemeChars]
        simp [colon]
      have dropped : (first :: others ++ [':'] ++ other).dropWhile isSchemeChar =
          ':' :: other := by
        rw [List.append_assoc, List.dropWhile_append_of_pos schemeChars]
        simp [colon]
      unfold splitScheme?
      simp only [isSchemeChar] at taken dropped
      simp only [taken, dropped]
      rw [if_pos isAlpha]
    · contradiction
  · contradiction

/-- What is taken from the front of a text may be shortened at its own front. -/
theorem span_of_suffix {test : Char → Bool} {text kept : Text}
    (isSuffix : kept <:+ text.takeWhile test) :
    (kept ++ text.dropWhile test).takeWhile test = kept ∧
      (kept ++ text.dropWhile test).dropWhile test = text.dropWhile test := by
  have passes : ∀ c ∈ kept, test c = true := by
    intro c member
    exact List.mem_takeWhile_imp (isSuffix.subset member)
  have ended : (text.dropWhile test).takeWhile test = [] := by
    have ends := List.head?_dropWhile_not test text
    cases isRest : text.dropWhile test with
    | nil => rfl
    | cons c behind =>
        rw [isRest] at ends
        exact List.takeWhile_cons_of_neg (by simpa using ends)
  rw [List.takeWhile_append_of_pos passes, List.dropWhile_append_of_pos passes, ended,
    List.append_nil, List.dropWhile_idempotent]
  exact ⟨rfl, rfl⟩

theorem dropUserinfo_suffix (text : Text) : dropUserinfo text <:+ text := by
  obtain ⟨inner, whole⟩ := behindUserinfo_suffix (text.takeWhile (!endsAuthority .special ·))
  refine ⟨inner, ?_⟩
  rw [dropUserinfo, ← List.append_assoc, whole, List.takeWhile_append_dropWhile]

/-- Whether a URL is another one, from which a user name and a password may have been taken. -/
def IsWhatIsLeft (plain url : Url) : Prop :=
  plain = url ∨ plain = url.withoutUserinfo

/-- Whether two readings fail alike or give a URL and what is left of it. -/
inductive ReadAlike : Except UrlError Url → Except UrlError Url → Prop
  | error (error : UrlError) : ReadAlike (.error error) (.error error)
  | ok {url plain : Url} (left : plain.IsWhatIsLeft url) : ReadAlike (.ok url) (.ok plain)

theorem readAlike_refl (reading : Except UrlError Url) : ReadAlike reading reading := by
  cases reading with
  | error error => exact .error error
  | ok url => exact .ok (Or.inl rfl)

theorem hasHost_withoutUserinfo (url : Url) : url.withoutUserinfo.hasHost = url.hasHost := by
  simp [hasHost, withoutUserinfo, Option.any_map]

theorem length_text_withoutUserinfo (url : Url) :
    url.withoutUserinfo.text.length ≤ url.text.length := by
  rcases url with ⟨scheme, authority, path, query, fragment⟩
  cases authority with
  | none => exact le_rfl
  | some authority =>
      have shorter : Authority.text { authority with username := [], password := none } =
          authority.hostAndPort := rfl
      have longer : authority.text.length =
          authority.userinfoText.length + authority.hostAndPort.length := List.length_append
      simp only [withoutUserinfo, text, pathGuard, Option.map_some, Option.elim_some, shorter,
        List.length_append, List.length_cons, longer]
      omega

/-- A request that can carry a URL can carry what is left of it. -/
theorem IsWhatIsLeft.isSendable {plain url : Url} (left : plain.IsWhatIsLeft url)
    (sendable : url.isSendable = true) : plain.isSendable = true := by
  rcases left with rfl | rfl
  · exact sendable
  have shorter := length_text_withoutUserinfo url
  rcases url with ⟨scheme, authority, path, query, fragment⟩
  cases authority with
  | none => exact sendable
  | some authority =>
      rw [Url.isSendable, Bool.and_eq_true, decide_eq_true_eq] at sendable ⊢
      exact ⟨lt_of_le_of_lt shorter sendable.1, sendable.2⟩

variable [HostMapping]

/-- Host and port are read from what stands behind the last at sign. -/
theorem readHostAndPort_of_readAuthority {scheme text : Text} {isLast : Bool}
    {authority : Authority} (reads : readAuthority scheme text isLast = .ok authority) :
    readHostAndPort scheme (behindUserinfo text) = .ok (authority.host, authority.port) := by
  have hostAndPort {hostText : Text} {next : Host × Option Nat → Except UrlError Authority}
      (kept : ∀ read, Gives (fun authority => (authority.host, authority.port) = read) (next read))
      (reads : readHostAndPort scheme hostText >>= next = .ok authority) :
      readHostAndPort scheme hostText = .ok (authority.host, authority.port) := by
    cases read : readHostAndPort scheme hostText with
    | error error => simp [read, bind, Except.bind] at reads
    | ok found =>
        rw [read] at reads
        rw [kept found authority reads]
  unfold readAuthority at reads
  unfold behindUserinfo
  split at reads
  · next uncut =>
    rw [uncut]
    exact hostAndPort (fun _ => gives_ok rfl) reads
  · next hostText cut =>
    rw [cut]
    split at reads
    · contradiction
    · exact hostAndPort (fun _ => gives_ok rfl) reads
  · next userinfo hostText _ cut =>
    rw [cut]
    generalize readUserinfo userinfo = told at reads
    rcases told with ⟨username, password⟩
    refine hostAndPort (fun read => ?_) reads
    dsimp only
    split
    · exact gives_error _
    · exact gives_ok rfl

/-- An authority is read in the same way from what stands behind the last at sign, except that it
has no user name and no password then. -/
theorem readAuthority_behindUserinfo {scheme text : Text} {isLast : Bool} {authority : Authority}
    (reads : readAuthority scheme text isLast = .ok authority) :
    readAuthority scheme (behindUserinfo text) isLast =
      .ok { authority with username := [], password := none } := by
  have uncut : cutAtLastAt (behindUserinfo text) = none := by
    simpa [cutAtLastAt] using at_notMem_behindUserinfo text
  unfold readAuthority
  rw [uncut, readHostAndPort_of_readAuthority reads]
  rfl

theorem behindUserinfo_ne_nil {scheme text : Text} {isLast : Bool} {authority : Authority}
    (special : kindOf scheme = .special)
    (reads : readAuthority scheme text isLast = .ok authority) : behindUserinfo text ≠ [] := by
  intro nothing
  have found := readHostAndPort_of_readAuthority reads
  simp [nothing, readHostAndPort, cutHost, special, bind, Except.bind] at found

theorem readAfterSlashes_scheme (scheme text : Text) :
    Gives (fun url => url.scheme = scheme) (readAfterSlashes scheme text) := by
  unfold readAfterSlashes
  extract_lets kind authorityText rest
  exact gives_bind fun _ => gives_ok rfl

theorem readFile_scheme (text : Text) :
    Gives (fun url => url.scheme = fileScheme) (readFile text) := by
  intro url reads
  obtain ⟨host, behind, -, rfl⟩ := readFile_cases text url reads
  rfl

theorem readOther_scheme (scheme text : Text) :
    Gives (fun url => url.scheme = scheme) (readOther scheme text) := by
  unfold readOther
  split
  · exact readAfterSlashes_scheme _ _
  · exact gives_ok rfl

/-- A URL of the web is read behind the slashes that follow its scheme. -/
theorem readAfterSlashes_of_read {text : Text} {url : Url} (reads : read text = .ok url)
    (ofWeb : url.isWebScheme = true) :
    ∃ scheme rest, splitScheme? (clean text) = some (scheme, rest) ∧ kindOf scheme = .special ∧
      readAfterSlashes scheme (rest.dropWhile (isSlash .special)) = .ok url := by
  have special := kindOf_of_isWebScheme ofWeb
  unfold read readWith at reads
  dsimp only at reads
  split at reads
  · next scheme rest splits =>
    refine ⟨scheme, rest, splits, ?_⟩
    unfold readBehindScheme at reads
    split at reads
    · rw [readFile_scheme _ url reads] at special
      contradiction
    · next isOther =>
      rw [readOther_scheme _ _ url reads, isOther] at special
      contradiction
    · next isSpecial => exact ⟨isSpecial, reads⟩
  · contradiction

theorem readAfterSlashes_eq {scheme : Text} (special : kindOf scheme = .special) (text : Text) :
    readAfterSlashes scheme text =
      let rest := text.dropWhile (!endsAuthority .special ·)
      (readAuthority scheme (text.takeWhile (!endsAuthority .special ·)) rest.isEmpty).map
        fun authority => withTail scheme (some authority)
          (.segments (rootSegments .special (cutTail rest).1)) (cutTail rest).2.1
          (cutTail rest).2.2 := by
  unfold readAfterSlashes
  rw [special]
  dsimp only
  cases readAuthority scheme (text.takeWhile (!endsAuthority .special ·))
    (text.dropWhile (!endsAuthority .special ·)).isEmpty <;> rfl

/-- Behind the slashes, a text without a user name and a password begins with a host. -/
theorem readAfterSlashes_dropUserinfo {scheme text : Text} {url : Url}
    (special : kindOf scheme = .special) (reads : readAfterSlashes scheme text = .ok url) :
    readAfterSlashes scheme (dropUserinfo text) = .ok url.withoutUserinfo ∧
      ∃ c rest, dropUserinfo text = c :: rest ∧ isSlash .special c = false := by
  have isSuffix := behindUserinfo_suffix (text.takeWhile (!endsAuthority .special ·))
  obtain ⟨taken, dropped⟩ := span_of_suffix isSuffix
  rw [readAfterSlashes_eq special] at reads ⊢
  rw [dropUserinfo, taken, dropped]
  dsimp only at reads ⊢
  cases read : readAuthority scheme (text.takeWhile (!endsAuthority .special ·))
      (text.dropWhile (!endsAuthority .special ·)).isEmpty with
  | error error =>
      rw [read] at reads
      contradiction
  | ok authority =>
      rw [read] at reads
      injection reads with same
      rw [readAuthority_behindUserinfo read, ← same]
      refine ⟨rfl, ?_⟩
      cases isHost : behindUserinfo (text.takeWhile (!endsAuthority .special ·)) with
      | nil => exact absurd isHost (behindUserinfo_ne_nil special read)
      | cons c rest =>
          refine ⟨c, _, List.cons_append, ?_⟩
          rw [isHost] at isSuffix
          have inside := List.mem_takeWhile_imp (isSuffix.subset List.mem_cons_self)
          simp only [endsAuthority, Bool.not_eq_true', Bool.or_eq_false_iff] at inside
          exact inside.1.1

/-- The text of a URL of the web without its user name and password is read as the URL without them.
-/
theorem read_removeUserinfo {text : Text} {url : Url} (reads : read text = .ok url)
    (ofWeb : url.isWebScheme = true) : read (removeUserinfo text) = .ok url.withoutUserinfo := by
  obtain ⟨scheme, rest, splits, special, readBehind⟩ := readAfterSlashes_of_read reads ofWeb
  obtain ⟨front, nonempty, whole, split⟩ := splitScheme?_front splits
  obtain ⟨readHost, c, behind, begins, notSlash⟩ := readAfterSlashes_dropUserinfo special readBehind
  have parts : clean text = front ++ rest.takeWhile (isSlash .special) ++
      rest.dropWhile (isSlash .special) := by
    rw [List.append_assoc, List.takeWhile_append_dropWhile, whole]
  generalize isKept : dropUserinfo (rest.dropWhile (isSlash .special)) = kept at readHost begins
  have removed : removeUserinfo text = front ++ rest.takeWhile (isSlash .special) ++ kept := by
    simp only [removeUserinfo, splits]
    rw [isKept, parts, List.length_append, Nat.add_sub_cancel, List.take_left]
  have isClean : clean (removeUserinfo text) = removeUserinfo text := by
    obtain ⟨inner, innerWhole⟩ := dropUserinfo_suffix (rest.dropWhile (isSlash .special))
    have clean := isClean_clean text
    rw [parts, ← innerWhole, isKept, ← List.append_assoc] at clean
    rw [removed]
    exact clean_of_isClean (clean.of_inner (by simp [nonempty]) (by simp [begins]))
  have dropped : (rest.takeWhile (isSlash .special) ++ kept).dropWhile (isSlash .special) =
      kept := by
    rw [List.dropWhile_append_of_pos fun c member => List.mem_takeWhile_imp member, begins]
    exact List.dropWhile_cons_of_neg (by simp [notSlash])
  unfold read readWith
  rw [isClean, removed, List.append_assoc]
  dsimp only
  rw [split]
  dsimp only
  unfold readBehindScheme
  rw [special]
  dsimp only
  rw [dropped, readHost]

theorem readRelative_alike (base : Url) (text : Text) :
    ReadAlike (readRelative base text) (readRelative base.withoutUserinfo text) := by
  have takenOver {url plain : Url} (same : plain = url.withoutUserinfo) :
      ReadAlike (.ok url) (.ok plain) := .ok (Or.inr same)
  unfold readRelative
  dsimp only [withoutUserinfo]
  generalize cutTail text = tail
  rcases tail with ⟨pathText, query, fragment⟩
  dsimp only
  split
  · split
    · exact takenOver rfl
    · exact takenOver rfl
  · split
    · split
      · exact readAlike_refl _
      · exact takenOver rfl
    · exact takenOver rfl

/-- A reference leads from a URL and from what is left of it to the same URL, or to a URL and to
what is left of that. -/
theorem resolve_alike {base plain : Url} (left : plain.IsWhatIsLeft base) (reference : Text) :
    ReadAlike (base.resolve reference) (plain.resolve reference) := by
  rcases left with rfl | rfl
  · exact readAlike_refl _
  have behindScheme (scheme rest : Text) :
      ReadAlike (readBehindScheme (some base) scheme rest)
        (readBehindScheme (some base.withoutUserinfo) scheme rest) := by
    unfold readBehindScheme
    cases kindOf scheme with
    | file => exact readAlike_refl _
    | other => exact readAlike_refl _
    | special =>
        dsimp only
        by_cases relative : (decide ((rest.takeWhile (isSlash .special)).length < 2) &&
            decide (base.scheme = scheme)) = true
        · rw [if_pos relative, if_pos (by exact relative)]
          exact readRelative_alike base rest
        · rw [if_neg relative, if_neg (by exact relative)]
          exact readAlike_refl _
  unfold resolve readWith
  generalize clean reference = text
  dsimp only
  cases splitScheme? text with
  | some split => exact behindScheme split.1 split.2
  | none =>
      dsimp only
      by_cases isOpaque : base.isOpaque = true
      · rw [if_pos isOpaque, if_pos (by exact isOpaque)]
        split
        · exact .ok (Or.inr rfl)
        · exact .error _
      · rw [if_neg isOpaque, if_neg (by exact isOpaque)]
        exact readRelative_alike base text

end UploadProbe.Url
