import Mathlib
import UploadProbe.Proofs.Requests

/-!
# The headers along redirections

Setting and removing headers keeps their names distinct. So when a request that follows a
redirection drops what describes a body, nothing of the kind is left, and nothing later brings it
back: every request behind the first asks for a URL and carries no body and no word about one.
-/

namespace UploadProbe

namespace Headers

def names (headers : Headers) : List Text :=
  headers.map Header.name

variable {headers : Headers} {name other : Text}

theorem names_cons (header : Header) (rest : Headers) :
    names (header :: rest) = header.name :: names rest :=
  rfl

theorem names_insert (name value : Text) (headers : Headers) :
    names (headers.insert name value) =
      if name ∈ names headers then names headers else names headers ++ [name] := by
  induction headers with
  | nil => rfl
  | cons header rest inductionHypothesis =>
      rw [insert, names_cons]
      by_cases same : header.name = name
      · rw [if_pos same, if_pos (List.mem_cons.mpr (Or.inl same.symm)), names_cons, same]
      rw [if_neg same, names_cons, inductionHypothesis]
      by_cases present : name ∈ names rest
      · rw [if_pos present, if_pos (List.mem_cons_of_mem _ present)]
      · have absent : name ∉ header.name :: names rest := by
          rw [List.mem_cons, not_or]
          exact ⟨Ne.symm same, present⟩
        rw [if_neg present, if_neg absent, List.cons_append]

/-- The last header takes the place of the one that is removed, so only the order changes. -/
theorem names_remove_perm (name : Text) (headers : Headers) :
    (names (headers.remove name)).Perm ((names headers).erase name) := by
  induction headers with
  | nil => simp [names, remove]
  | cons header rest inductionHypothesis =>
      simp only [names, remove, List.map_cons] at inductionHypothesis ⊢
      by_cases same : header.name = name
      · rw [if_pos same, same, List.erase_cons_head]
        cases ended : rest.getLast? with
        | none => simp [List.getLast?_eq_none_iff.mp ended]
        | some last =>
            have whole : rest.dropLast ++ [last] = rest :=
              List.dropLast_append_getLast? last ended
            have moved := (List.perm_append_singleton last rest.dropLast).symm
            rw [whole] at moved
            exact moved.map Header.name
      · rw [if_neg same, List.erase_cons_tail (by simpa using same)]
        exact inductionHypothesis.cons header.name

theorem mem_names_of_remove (member : other ∈ names (headers.remove name)) :
    other ∈ names headers :=
  List.mem_of_mem_erase ((names_remove_perm name headers).mem_iff.mp member)

theorem nodup_remove (distinct : (names headers).Nodup) (name : Text) :
    (names (headers.remove name)).Nodup :=
  (names_remove_perm name headers).nodup_iff.mpr (distinct.erase name)

theorem notMem_remove (distinct : (names headers).Nodup) (name : Text) :
    name ∉ names (headers.remove name) := by
  intro member
  exact distinct.not_mem_erase ((names_remove_perm name headers).mem_iff.mp member)

theorem nodup_insert (distinct : (names headers).Nodup) (name value : Text) :
    (names (headers.insert name value)).Nodup := by
  rw [names_insert]
  split
  · exact distinct
  · rename_i absent
    rw [← List.concat_eq_append]
    exact distinct.concat absent

theorem mem_names_of_insert {value : Text} (member : other ∈ names (headers.insert name value)) :
    other = name ∨ other ∈ names headers := by
  rw [names_insert] at member
  split at member
  · exact Or.inr member
  · simpa [or_comm] using member

theorem mem_names {header : Header} (member : header ∈ headers) : header.name ∈ names headers :=
  List.mem_map_of_mem member

/-- Where names are distinct, exactly the header of the name is removed. -/
theorem remove_perm_filter (distinct : (names headers).Nodup) (name : Text) :
    (headers.remove name).Perm (headers.filter (·.name ≠ name)) := by
  induction headers with
  | nil => exact List.Perm.nil
  | cons first rest inductionHypothesis =>
      rw [names_cons, List.nodup_cons] at distinct
      rw [remove]
      by_cases same : first.name = name
      · have others : rest.filter (·.name ≠ name) = rest := by
          rw [List.filter_eq_self]
          intro header member
          rw [decide_eq_true_eq]
          rintro rfl
          exact distinct.1 (same ▸ mem_names member)
        rw [if_pos same, List.filter_cons_of_neg (by simpa using same), others]
        cases ended : rest.getLast? with
        | none => simp [List.getLast?_eq_none_iff.mp ended]
        | some last =>
            have moved := (List.perm_append_singleton last rest.dropLast).symm
            rwa [List.dropLast_append_getLast? last ended] at moved
      · rw [if_neg same, List.filter_cons_of_pos (by simpa using same)]
        exact (inductionHypothesis distinct.2).cons first

theorem mem_remove_iff (distinct : (names headers).Nodup) {header : Header} :
    header ∈ headers.remove name ↔ header ∈ headers ∧ header.name ≠ name := by
  rw [(remove_perm_filter distinct name).mem_iff, List.mem_filter, decide_eq_true_eq]

/-- Where names are distinct, the header that is set is the only one of its name. -/
theorem mem_insert_iff (distinct : (names headers).Nodup) {value : Text} {header : Header} :
    header ∈ headers.insert name value ↔
      header = ⟨name, value⟩ ∨ header ∈ headers ∧ header.name ≠ name := by
  induction headers with
  | nil => simp [insert]
  | cons first rest inductionHypothesis =>
      rw [names_cons, List.nodup_cons] at distinct
      rw [insert]
      by_cases same : first.name = name
      · have others : ∀ header ∈ rest, header.name ≠ name := by
          rintro header member rfl
          exact distinct.1 (same ▸ mem_names member)
        rw [if_pos same, List.mem_cons, List.mem_cons]
        constructor
        · rintro (rfl | member)
          · exact Or.inl rfl
          · exact Or.inr ⟨Or.inr member, others header member⟩
        · rintro (rfl | ⟨rfl | member, differs⟩)
          · exact Or.inl rfl
          · exact absurd same differs
          · exact Or.inr member
      · rw [if_neg same, List.mem_cons, List.mem_cons, inductionHypothesis distinct.2]
        constructor
        · rintro (rfl | isSet | ⟨member, differs⟩)
          · exact Or.inr ⟨Or.inl rfl, same⟩
          · exact Or.inl isSet
          · exact Or.inr ⟨Or.inr member, differs⟩
        · rintro (isSet | ⟨rfl | member, differs⟩)
          · exact Or.inr (Or.inl isSet)
          · exact Or.inl rfl
          · exact Or.inr (Or.inr ⟨member, differs⟩)

end Headers

namespace Request

/-- Whether a request only asks for a URL: it has no body, and no header that describes one. -/
structure IsBare (request : Request) : Prop where
  method : request.method = .get
  body : request.body = []
  contentType : request.header? .contentType = none
  contentLength : request.header? .contentLength = none

theorem header?_eq_none {request : Request} {name : HeaderName}
    (absent : name.text ∉ request.headers.names) : request.header? name = none := by
  rw [header?, Option.map_eq_none_iff, List.find?_eq_none]
  intro header member named
  rw [decide_eq_true_eq] at named
  apply absent
  rw [← named]
  exact List.mem_map_of_mem member

theorem nodup_postForm (url : Url) (authorized : Option Text) (boundary : Boundary)
    (part : FormPart) (data : Bytes) (length : Nat) :
    (postForm url authorized boundary part data length).headers.names.Nodup := by
  have told : ([HeaderName.contentType, .contentLength, .accept].map HeaderName.text).Nodup := by
    decide +kernel
  have authorizedToo : ([HeaderName.authorization, .contentType, .contentLength, .accept].map
      HeaderName.text).Nodup := by decide +kernel
  cases authorized with
  | none => exact told
  | some value => exact authorizedToo

variable {request : Request}

theorem nodup_withoutBodyHeaders (distinct : request.headers.names.Nodup) :
    (Headers.names (withoutBodyHeaders request.headers)).Nodup :=
  Headers.nodup_remove (Headers.nodup_remove distinct _) _

theorem notMem_withoutBodyHeaders (distinct : request.headers.names.Nodup) {name : HeaderName}
    (describes : name = .contentType ∨ name = .contentLength) :
    name.text ∉ Headers.names (withoutBodyHeaders request.headers) := by
  rcases describes with rfl | rfl
  · intro member
    exact Headers.notMem_remove distinct _ (Headers.mem_names_of_remove member)
  · exact Headers.notMem_remove (Headers.nodup_remove distinct _) _

/-- The headers behind a redirection, before the authorization is looked at. -/
theorem toldHeaders_cases (distinct : request.headers.names.Nodup) (next : Url) :
    ∃ told : Headers, told.names.Nodup ∧
      (∀ name : HeaderName, name = .contentType ∨ name = .contentLength →
        name.text ∉ told.names) ∧
      ((request.redirected next).headers = told ∨
        (request.redirected next).headers = told.remove HeaderName.authorization.text) := by
  have plainDistinct := nodup_withoutBodyHeaders distinct
  have reached : ∀ told : Headers, (request.redirected next).headers =
      (if request.url.sameServer next then told
        else told.remove HeaderName.authorization.text) →
      (request.redirected next).headers = told ∨
        (request.redirected next).headers = told.remove HeaderName.authorization.text := by
    intro told same
    split at same
    · exact Or.inl same
    · exact Or.inr same
  cases told : refererFrom? request.url next with
  | none =>
      refine ⟨withoutBodyHeaders request.headers, plainDistinct, ?_, ?_⟩
      · intro name describes
        exact notMem_withoutBodyHeaders distinct describes
      · exact reached _ (by simp only [redirected, told])
  | some referer =>
      refine ⟨(withoutBodyHeaders request.headers).insert HeaderName.referer.text referer,
        Headers.nodup_insert plainDistinct _ _, ?_, ?_⟩
      · intro name describes member
        rcases Headers.mem_names_of_insert member with isReferer | kept
        · rcases describes with rfl | rfl <;> exact absurd isReferer (by decide +kernel)
        · exact notMem_withoutBodyHeaders distinct describes kept
      · exact reached _ (by simp only [redirected, told])

/-- A request that follows a redirection is bare, and its headers are distinct again. -/
theorem isBare_redirected (distinct : request.headers.names.Nodup) (next : Url) :
    (request.redirected next).IsBare ∧ (request.redirected next).headers.names.Nodup := by
  rcases toldHeaders_cases distinct next with ⟨told, toldDistinct, clear, same⟩
  have kept : ∀ name, name ∈ (request.redirected next).headers.names → name ∈ told.names := by
    intro name member
    rcases same with same | same
    · rwa [same] at member
    · rw [same] at member
      exact Headers.mem_names_of_remove member
  constructor
  · refine ⟨rfl, rfl, ?_, ?_⟩
    · apply header?_eq_none
      intro member
      exact clear .contentType (Or.inl rfl) (kept _ member)
    · apply header?_eq_none
      intro member
      exact clear .contentLength (Or.inr rfl) (kept _ member)
  · rcases same with same | same
    · rw [same]
      exact toldDistinct
    · rw [same]
      exact Headers.nodup_remove toldDistinct _

end Request

end UploadProbe
