import Mathlib
import UploadProbe.Proofs.FirstFailures
import UploadProbe.Proofs.RequestSeries
import UploadProbe.Proofs.RootedUrls

/-!
# The heads of requests

Nothing that is told in a head holds the end of a line, and the target of a request begins with a
slash and holds no blank. So neither the settings nor a location that has been received can add a
word to the first line of a head or a line to the head, and the headers that are there are those of
the client, each once.
-/

namespace UploadProbe

open Text

theorem HeaderName.text_injective : Function.Injective HeaderName.text := by
  intro left right same
  cases left <;> cases right <;> first | rfl | exact absurd same (by decide)

theorem HeaderName.colon_notMem_text (name : HeaderName) : ':' ∉ name.text := by
  cases name <;> decide

namespace Base64

theorem isUnseen_digit (value : Nat) : isUnseen (digit value) = false := by
  have allSeen : (alphabet.all fun c => !isUnseen c) = true := by decide
  rw [digit, List.getD_eq_getElem?_getD]
  cases found : alphabet[value]? with
  | none => decide
  | some c => simpa using List.all_eq_true.mp allSeen c (List.mem_of_getElem? found)

theorem avoids_encode (octets : Bytes) : Avoids isUnseen (encode octets) := by
  have filled : isUnseen filler = false := by decide
  fun_induction encode octets with
  | case1 => exact avoids_nil
  | case2 a => simp [avoids_cons, isUnseen_digit, filled, avoids_nil]
  | case3 a b => simp [avoids_cons, isUnseen_digit, filled, avoids_nil]
  | case4 a b c rest inductionHypothesis =>
      simp [avoids_cons, isUnseen_digit, inductionHypothesis]

end Base64

theorem Boundary.avoids_text (boundary : Boundary) : Avoids isUnseen boundary.text := by
  have words (width number : Nat) : Avoids isUnseen (hexWord width number) := by
    induction width generalizing number with
    | zero => exact avoids_nil
    | succ width inductionHypothesis =>
        have digit : isUnseen (number % 16).digitChar = false := by
          have small : number % 16 < 16 := Nat.mod_lt _ (by decide)
          interval_cases number % 16 <;> decide
        exact avoids_append.mpr ⟨inductionHypothesis _, avoids_cons.mpr ⟨digit, avoids_nil⟩⟩
  refine avoids_joinWith (by decide) ?_
  simp [words]

namespace Text

theorem splitOn_of_notMem {separator : Char} {text : Text} (clear : separator ∉ text) :
    splitOn separator text = [text] := by
  induction text with
  | nil => rfl
  | cons c text inductionHypothesis =>
      rw [List.mem_cons, not_or] at clear
      rw [splitOn, if_neg (Ne.symm clear.1), inductionHypothesis clear.2]

theorem splitOn_append_of_notMem {separator : Char} {text : Text} (clear : separator ∉ text)
    (rest : Text) : splitOn separator (text ++ separator :: rest) =
      text :: splitOn separator rest := by
  induction text with
  | nil => rw [List.nil_append, splitOn, if_pos rfl]
  | cons c text inductionHypothesis =>
      rw [List.mem_cons, not_or] at clear
      rw [List.cons_append, splitOn, if_neg (Ne.symm clear.1), inductionHypothesis clear.2]

theorem Avoids.notMem {set : Char → Bool} {text : Text} (avoids : Avoids set text) {c : Char}
    (belongs : set c = true) : c ∉ text := by
  intro member
  rw [avoids c member] at belongs
  contradiction

end Text

namespace Head

/-- The names in front of the first colons, behind the first line. -/
def names (lines : List Text) : List Text :=
  lines.tail.map fun line => line.takeWhile (· ≠ ':')

/-- Whether lines are the head of a request and nothing more. The first one consists of three words,
and each of the others names a header that the client knows and that no other line names. -/
structure IsWhole (method : Method) (target : Text) (lines : List Text) : Prop where
  words : lines.head?.map (Text.splitOn ' ') = some [method.text, target, "HTTP/1.1".toList]
  rooted : target.head? = some '/'
  seen : Avoids isUnseen target
  noFragment : '#' ∉ target
  known : ∀ line ∈ lines.tail, ∃ (name : HeaderName) (value : Text),
    line = Header.line ⟨name.text, value⟩
  distinct : (names lines).Nodup
  lineEnds : ∀ line ∈ lines, '\r' ∉ line ∧ '\n' ∉ line

end Head

theorem Header.takeWhile_line {header : Header} (clear : ':' ∉ header.name) :
    header.line.takeWhile (· ≠ ':') = header.name := by
  have before : ∀ c ∈ header.name, decide (c ≠ ':') = true := by
    rintro c member
    rw [decide_eq_true_eq]
    rintro rfl
    exact clear member
  rw [line, List.append_assoc, List.takeWhile_append_of_pos before]
  simp

namespace Request

/-- Whether the parts of a request hold only what has a place in them. -/
structure IsOrderly (request : Request) : Prop where
  url : request.url.IsNormal
  rooted : request.url.IsRooted
  distinct : request.headers.names.Nodup
  known : ∀ name ∈ request.headers.names, ∃ known : HeaderName, known ≠ .host ∧ name = known.text
  values : ∀ header ∈ request.headers, Avoids Percent.controls header.value
  /-- Exactly what posts a form describes its body. -/
  describes : ∀ name : HeaderName, name = .contentType ∨ name = .contentLength →
    (name.text ∈ request.headers.names ↔ request.method = .post)

end Request

theorem Url.IsNormal.target_avoids {url : Url} (isNormal : url.IsNormal) (isRooted : url.IsRooted) :
    Avoids (fun c => isUnseen c || c = '#') url.target := by
  rcases isRooted with ⟨first, rest, isPath⟩
  have pathNormal : AreSegments (first :: rest) := by
    have pathNormal := isNormal.path
    rwa [isPath] at pathNormal
  refine avoids_append.mpr ⟨?_, ?_⟩
  · rw [isPath]
    intro c member
    rcases List.mem_flatMap.mp member with ⟨segment, isSegment, member⟩
    rcases List.mem_cons.mp member with rfl | member
    · decide
    · have plain := pathNormal segment isSegment c member
      have noHash : c ≠ '#' := by
        rintro rfl
        exact absurd plain (by decide)
      simp [Percent.isUnseen_of_pathSet plain, noHash]
  · cases isQuery : url.query with
    | none => exact avoids_nil
    | some query =>
        refine avoids_cons.mpr ⟨by decide, fun c member => ?_⟩
        have plain := isNormal.query query isQuery c member
        have noHash : c ≠ '#' := by
          rintro rfl
          exact absurd plain (by decide)
        simp [Percent.isUnseen_of_querySet plain, noHash]

theorem Url.IsNormal.target_seen {url : Url} (isNormal : url.IsNormal) (isRooted : url.IsRooted) :
    Avoids isUnseen url.target :=
  (isNormal.target_avoids isRooted).mono fun _ avoids => (Bool.or_eq_false_iff.mp avoids).1

theorem Request.hostText_avoids {url : Url} (isNormal : url.IsNormal) :
    Avoids isUnseen (hostText url) := by
  unfold hostText
  cases isAuthority : url.authority with
  | none => exact avoids_nil
  | some authority => exact (isNormal.authority authority isAuthority).hostAndPort_avoids

namespace Request

variable {request : Request}

theorem IsOrderly.names_head (orderly : request.IsOrderly) :
    Head.names request.head = request.headers.names ++ [HeaderName.host.text] := by
  have colonFree : ∀ header ∈ request.headers, ':' ∉ header.name := by
    intro header member
    rcases orderly.known _ (Headers.mem_names member) with ⟨known, -, same⟩
    rw [same]
    exact known.colon_notMem_text
  have each : request.headers.map (fun header => header.line.takeWhile (· ≠ ':')) =
      request.headers.map Header.name :=
    List.map_congr_left fun header member => Header.takeWhile_line (colonFree header member)
  have host : (Header.line ⟨HeaderName.host.text, hostText request.url⟩).takeWhile (· ≠ ':') =
      HeaderName.host.text := Header.takeWhile_line HeaderName.host.colon_notMem_text
  rw [Head.names, head, List.tail_cons, List.map_append, List.map_map, List.map_singleton, host,
    Headers.names, ← each]
  rfl

theorem IsOrderly.line_avoids (orderly : request.IsOrderly) {line : Text}
    (member : line ∈ request.head) : Avoids Percent.controls line := by
  have seen {text : Text} (avoids : Avoids isUnseen text) : Avoids Percent.controls text :=
    avoids.mono fun _ => Percent.controls_of_isUnseen
  have field (name : HeaderName) {value : Text} (avoids : Avoids Percent.controls value) :
      Avoids Percent.controls (Header.line ⟨name.text, value⟩) := by
    have nameAvoids : Avoids Percent.controls name.text := by cases name <;> decide
    exact avoids_append.mpr ⟨avoids_append.mpr ⟨nameAvoids, by decide⟩, avoids⟩
  rw [head, List.mem_cons, List.mem_append, List.mem_map, List.mem_singleton] at member
  rcases member with rfl | ⟨header, isHeader, rfl⟩ | rfl
  · have methodAvoids : Avoids Percent.controls request.method.text := by
      cases request.method <;> decide
    have targetAvoids := seen (orderly.url.target_seen orderly.rooted)
    exact avoids_append.mpr ⟨avoids_append.mpr ⟨methodAvoids,
      avoids_cons.mpr ⟨by decide, targetAvoids⟩⟩, by decide⟩
  · rcases orderly.known _ (Headers.mem_names isHeader) with ⟨known, -, same⟩
    have avoids := field known (orderly.values header isHeader)
    rwa [← same] at avoids
  · exact field .host (seen (hostText_avoids orderly.url))

/-- The head of an orderly request is whole. -/
theorem IsOrderly.isWhole (orderly : request.IsOrderly) :
    Head.IsWhole request.method request.url.target request.head := by
  have targetSeen := orderly.url.target_seen orderly.rooted
  have noFragment : '#' ∉ request.url.target :=
    (orderly.url.target_avoids orderly.rooted).notMem (by decide)
  refine ⟨?_, ?_, targetSeen, noFragment, ?_, ?_, ?_⟩
  · have methodClear : ' ' ∉ request.method.text := by cases request.method <;> decide
    have targetClear : ' ' ∉ request.url.target := targetSeen.notMem (by decide)
    have whole : request.method.text ++ ' ' :: request.url.target ++ " HTTP/1.1".toList =
        request.method.text ++ ' ' :: (request.url.target ++ ' ' :: "HTTP/1.1".toList) := by
      simp
    rw [head, List.head?_cons, Option.map_some, whole, splitOn_append_of_notMem methodClear,
      splitOn_append_of_notMem targetClear, splitOn_of_notMem (by decide)]
  · rcases orderly.rooted with ⟨first, rest, isPath⟩
    simp [Url.target, isPath, UrlPath.text]
  · intro line member
    rw [head, List.tail_cons, List.mem_append, List.mem_map, List.mem_singleton] at member
    rcases member with ⟨header, isHeader, rfl⟩ | rfl
    · rcases orderly.known _ (Headers.mem_names isHeader) with ⟨known, -, same⟩
      exact ⟨known, header.value, by rw [← same]⟩
    · exact ⟨.host, _, rfl⟩
  · rw [orderly.names_head, ← List.concat_eq_append]
    refine orderly.distinct.concat fun member => ?_
    rcases orderly.known _ member with ⟨known, notHost, same⟩
    exact notHost (HeaderName.text_injective same.symm)
  · intro line member
    have avoids := orderly.line_avoids member
    exact ⟨avoids.notMem (by decide), avoids.notMem (by decide)⟩

end Request

namespace Request

theorem mem_names_formHeaders {authorized : Option Text} {boundary : Boundary} {declared : Nat}
    {name : Text} (member : name ∈ Headers.names (formHeaders authorized boundary declared)) :
    (name = HeaderName.authorization.text ∧ authorized ≠ none) ∨
      name ∈ [HeaderName.contentType, .contentLength, .accept].map HeaderName.text := by
  cases authorized with
  | none => exact Or.inr member
  | some value =>
      rcases List.mem_cons.mp member with same | told
      · exact Or.inl ⟨same, Option.some_ne_none value⟩
      · exact Or.inr told

/-- What is taken out of a URL for the authorization is there. -/
theorem takeCredentials_ne_none {url : Url} (taken : (takeCredentials url).2 ≠ none) :
    ∃ authority, url.authority = some authority ∧
      (authority.username ≠ [] ∨ authority.password ≠ none) := by
  unfold takeCredentials at taken
  cases isAuthority : url.authority with
  | none => simp [isAuthority] at taken
  | some authority =>
      refine ⟨authority, rfl, ?_⟩
      by_contra nothing
      rw [not_or, not_ne_iff, not_ne_iff] at nothing
      apply taken
      simp [isAuthority, nothing.1, nothing.2, Percent.decode]

theorem authorization_avoids (username : Bytes) (password : Option Bytes) :
    Avoids Percent.controls (authorization username password) := by
  have encoded := Base64.avoids_encode (username ++ Bytes.ascii ':' :: password.getD [])
  exact avoids_append.mpr ⟨by decide, encoded.mono fun _ => Percent.controls_of_isUnseen⟩

theorem takeCredentials_avoids (url : Url) :
    ∀ value ∈ (takeCredentials url).2, Avoids Percent.controls value := by
  intro value taken
  unfold takeCredentials at taken
  cases isAuthority : url.authority with
  | none => simp [isAuthority] at taken
  | some authority =>
      simp only [isAuthority] at taken
      split at taken
      · cases taken
        exact authorization_avoids _ _
      · cases taken

theorem values_formHeaders {authorized : Option Text}
    (authorizedAvoids : ∀ value ∈ authorized, Avoids Percent.controls value) (boundary : Boundary)
    (declared : Nat) :
    ∀ header ∈ formHeaders authorized boundary declared, Avoids Percent.controls header.value := by
  have seen {text : Text} (avoids : Avoids isUnseen text) : Avoids Percent.controls text :=
    avoids.mono fun _ => Percent.controls_of_isUnseen
  intro header member
  rw [formHeaders, List.mem_append] at member
  rcases member with isAuthorization | told
  · rcases List.mem_map.mp isAuthorization with ⟨value, present, rfl⟩
    exact authorizedAvoids value (Option.mem_toList.mp present)
  · simp only [List.mem_cons, List.not_mem_nil, or_false] at told
    rcases told with rfl | rfl | rfl
    · exact avoids_append.mpr ⟨by decide, seen boundary.avoids_text⟩
    · exact seen (avoids_isUnseen_ofNat declared)
    · decide

theorem isRooted_takeCredentials {url : Url} (isRooted : url.IsRooted) :
    (takeCredentials url).1.IsRooted := by
  rcases takeCredentials_url url with same | without
  · rwa [same]
  · rw [without]
    exact isRooted

theorem isNormal_takeCredentials {url : Url} (isNormal : url.IsNormal) :
    (takeCredentials url).1.IsNormal := by
  rcases takeCredentials_url url with same | without
  · rwa [same]
  · rw [without]
    exact isNormal.withoutUserinfo

/-- The request that posts a form to a URL of the web is orderly. -/
theorem isOrderly_postForm {url : Url} (isNormal : url.IsNormal) (isRooted : url.IsRooted)
    (boundary : Boundary) (part : FormPart) (data : Bytes) (length : Nat) :
    (postForm (takeCredentials url).1 (takeCredentials url).2 boundary part data
      length).IsOrderly where
  url := isNormal_takeCredentials isNormal
  rooted := isRooted_takeCredentials isRooted
  distinct := nodup_postForm ..
  known := by
    intro name member
    rcases mem_names_formHeaders member with ⟨same, -⟩ | told
    · exact ⟨.authorization, by decide, same⟩
    · rcases List.mem_map.mp told with ⟨known, isTold, same⟩
      refine ⟨known, ?_, same.symm⟩
      rintro rfl
      exact absurd isTold (by decide)
  values := values_formHeaders (takeCredentials_avoids url) boundary _
  describes := by
    have describing : ∀ name : HeaderName, name = .contentType ∨ name = .contentLength →
        name.text ∈ Headers.names
          (formHeaders (takeCredentials url).2 boundary (part.framedLength boundary length)) := by
      intro name describes
      rw [Headers.names, formHeaders, List.map_append, List.mem_append]
      right
      rcases describes with rfl | rfl <;> simp
    intro name describes
    exact iff_of_true (describing name describes) rfl

variable {request : Request}

theorem mem_withoutBodyHeaders_iff {headers : Headers} (distinct : headers.names.Nodup)
    {header : Header} : header ∈ withoutBodyHeaders headers ↔
      header ∈ headers ∧ header.name ≠ HeaderName.contentType.text ∧
        header.name ≠ HeaderName.contentLength.text := by
  rw [withoutBodyHeaders, Headers.mem_remove_iff (Headers.nodup_remove distinct _),
    Headers.mem_remove_iff distinct, and_assoc]

/-- Whether a header stands behind a redirection because it stood in front of it. -/
def IsKept (request : Request) (next : Url) (header : Header) : Prop :=
  header ∈ request.headers ∧ header.name ≠ HeaderName.contentType.text ∧
    header.name ≠ HeaderName.contentLength.text ∧
    (header.name = HeaderName.referer.text → refererFrom? request.url next = none)

/-- The headers behind a redirection: one that tells where the request comes from, and those that
are kept; an authorization is kept for the same server only. -/
theorem mem_redirected_iff (distinct : request.headers.names.Nodup) {next : Url} {header : Header} :
    header ∈ (request.redirected next).headers ↔
      (header.name = HeaderName.authorization.text → request.url.sameServer next = true) ∧
        ((header.name = HeaderName.referer.text ∧
            refererFrom? request.url next = some header.value) ∨
          request.IsKept next header) := by
  have plainDistinct := nodup_withoutBodyHeaders distinct
  have plain : header ∈ withoutBodyHeaders request.headers ↔ _ :=
    mem_withoutBodyHeaders_iff distinct
  obtain ⟨told, toldDistinct, same, isTold⟩ : ∃ told : Headers, told.names.Nodup ∧
      (request.redirected next).headers = (if request.url.sameServer next then told
        else told.remove HeaderName.authorization.text) ∧
      (header ∈ told ↔ (header.name = HeaderName.referer.text ∧
          refererFrom? request.url next = some header.value) ∨ request.IsKept next header) := by
    cases tells : refererFrom? request.url next with
    | none =>
        refine ⟨withoutBodyHeaders request.headers, plainDistinct,
          by simp only [redirected, tells], ?_⟩
        rw [plain, IsKept, tells]
        simp
    | some referer =>
        refine ⟨(withoutBodyHeaders request.headers).insert HeaderName.referer.text referer,
          Headers.nodup_insert plainDistinct _ _, by simp only [redirected, tells], ?_⟩
        rw [Headers.mem_insert_iff plainDistinct, plain, IsKept, tells]
        rcases header with ⟨name, value⟩
        simp only [Header.mk.injEq, Option.some_inj, reduceCtorEq, and_assoc, eq_comm]
  rw [same]
  by_cases sameServer : request.url.sameServer next = true
  · rw [if_pos sameServer, isTold]
    simp [sameServer]
  · rw [if_neg sameServer, Headers.mem_remove_iff toldDistinct, isTold]
    simp [sameServer, and_comm]

theorem name_cases_of_redirected (distinct : request.headers.names.Nodup) {next : Url} {name : Text}
    (member : name ∈ (request.redirected next).headers.names) :
    name = HeaderName.referer.text ∨
      (name ∈ request.headers.names ∧ name ≠ HeaderName.contentType.text ∧
        name ≠ HeaderName.contentLength.text) := by
  rcases List.mem_map.mp member with ⟨header, isThere, rfl⟩
  rcases ((mem_redirected_iff distinct).mp isThere).2 with
    ⟨isReferer, -⟩ | ⟨kept, noType, noLength, -⟩
  · exact Or.inl isReferer
  · exact Or.inr ⟨Headers.mem_names kept, noType, noLength⟩

theorem refererFrom?_avoids {previous next : Url} (isNormal : previous.IsNormal) {referer : Text}
    (tells : refererFrom? previous next = some referer) : Avoids Percent.controls referer := by
  have without := isNormal.withoutUserinfo
  have withoutFragment : Url.IsNormal { previous.withoutUserinfo with fragment := none } :=
    ⟨without.scheme, without.authority, without.path, without.query, by simp⟩
  unfold refererFrom? at tells
  split at tells
  · contradiction
  · injection tells with same
    rw [← same]
    exact withoutFragment.text_avoids

/-- What is orderly stays so behind a redirection to a URL of the web. -/
theorem IsOrderly.redirected [HostMapping] (orderly : request.IsOrderly) {response : Response}
    {next : Url} (sends : response.SendsTo request next) (ofWeb : next.isWebScheme = true) :
    (request.redirected next).IsOrderly where
  url := by
    rcases sends.location with ⟨_, _, _, _, resolves⟩
    exact Url.isNormal_of_resolve orderly.url resolves
  rooted := by
    rcases sends.location with ⟨_, _, _, _, resolves⟩
    exact Url.isRooted_of_resolve orderly.rooted resolves ofWeb
  distinct := (isBare_redirected orderly.distinct next).2
  known := by
    intro name member
    rcases name_cases_of_redirected orderly.distinct member with rfl | ⟨before, -⟩
    · exact ⟨.referer, by decide, rfl⟩
    · exact orderly.known name before
  values := by
    intro header member
    rcases ((mem_redirected_iff orderly.distinct).mp member).2 with ⟨-, tells⟩ | ⟨kept, -⟩
    · exact refererFrom?_avoids orderly.url tells
    · exact orderly.values header kept
  describes := by
    intro name describes
    refine iff_of_false ?_ (by simp [Request.redirected])
    intro member
    rcases name_cases_of_redirected orderly.distinct member with isReferer | ⟨-, noType, noLength⟩
    · have same := HeaderName.text_injective isReferer
      rcases describes with rfl | rfl <;> contradiction
    · rcases describes with rfl | rfl
      · exact noType rfl
      · exact noLength rfl

end Request

namespace Settings

/-- Whether the URL tells a user name or a password. -/
def TellCredentials [HostMapping] (settings : Settings) : Prop :=
  ∃ url authority, Url.read settings.url = .ok url ∧ url.authority = some authority ∧
    (authority.username ≠ [] ∨ authority.password ≠ none)

end Settings

namespace Attempt

variable [HostMapping]
variable {attempt : Attempt}

/-- An upload that sends anything has a usable URL. -/
theorem hasUsableUrl_of_sent [MultibyteDecoding] {post : Request}
    (requested : attempt.request = .ok post) (sends : attempt.sent ≠ []) :
    attempt.settings.HasUsableUrl := by
  by_contra unusable
  rcases Upload.request_ok_iff.mp requested with ⟨mediaType, -, accepted, -⟩
  obtain ⟨ending, ended, -⟩ : ∃ ending, attempt.ended = (ending, attempt.script) ∧ _ :=
    Upload.run_of_unusableUrl accepted unusable
  apply sends
  rw [sent, ended]
  exact List.drop_length

/-- What holds of the request that posts the form, and of a request that follows a redirection if it
holds of the one in front of it, holds of every request of an upload. -/
theorem induction_on_sent [MultibyteDecoding] {holds : Nat → Request → Prop}
    (posted : ∀ post, attempt.request = .ok post → attempt.settings.HasUsableUrl → holds 0 post)
    (redirected : ∀ place request (response : Response) next, holds place request →
      response.SendsTo request next → next.isWebScheme = true →
      holds (place + 1) (request.redirected next)) :
    ∀ place request, attempt.sent[place]? = some request → holds place request := by
  intro place
  induction place with
  | zero =>
      intro request asked
      have sends : attempt.sent ≠ [] := by
        intro nothing
        simp [nothing] at asked
      rcases attempt.nothing_or_runs with ⟨nothing, -⟩ | ⟨post, followed, runs⟩
      · contradiction
      · rcases runs.course.begins with nothing | ⟨later, split⟩
        · contradiction
        · rw [split, List.getElem?_cons_zero, Option.some_inj] at asked
          rw [← asked]
          exact posted post runs.requested (hasUsableUrl_of_sent runs.requested sends)
  | succ place inductionHypothesis =>
      intro follower further
      have before : place < attempt.sent.length :=
        Nat.lt_of_succ_lt (List.getElem?_eq_some_iff.mp further).1
      have asked := List.getElem?_eq_getElem before
      rcases (sendsOnce attempt).followed place _ follower asked further with
        ⟨response, -, sends, ofWeb, same⟩
      rw [same]
      exact redirected place _ response follower.url (inductionHypothesis _ asked) sends ofWeb

/-- What holds of the request at some place of an upload, besides that it is orderly. -/
structure AsksOrderly (attempt : Attempt) (place : Nat) (request : Request) : Prop where
  orderly : request.IsOrderly
  authorization : HeaderName.authorization.text ∈ request.headers.names →
    attempt.settings.TellCredentials
  referer : HeaderName.referer.text ∈ request.headers.names → place ≠ 0

theorem asksOrderly_of_request {post : Request} (requested : attempt.request = .ok post)
    (usable : attempt.settings.HasUsableUrl) : attempt.AsksOrderly 0 post := by
  rcases Upload.request_ok_iff.mp requested with ⟨mediaType, url, -, reads, -, rfl⟩
  obtain ⟨same, readsSame, -, ofWeb⟩ := usable
  rw [reads, Except.ok.injEq] at readsSame
  subst readsSame
  refine ⟨Request.isOrderly_postForm (Url.isNormal_of_read reads) (Url.isRooted_of_read reads ofWeb)
    _ _ _ _, ?_, ?_⟩
  · intro member
    rcases Request.mem_names_formHeaders member with ⟨-, taken⟩ | told
    · rcases Request.takeCredentials_ne_none taken with ⟨authority, isAuthority, tells⟩
      exact ⟨url, authority, reads, isAuthority, tells⟩
    · exact absurd told (by decide)
  · intro member
    rcases Request.mem_names_formHeaders member with ⟨isAuthorization, -⟩ | told
    · exact absurd isAuthorization (by decide)
    · exact absurd told (by decide)

theorem AsksOrderly.redirected {place : Nat} {request : Request} {response : Response} {next : Url}
    (asks : attempt.AsksOrderly place request) (sends : response.SendsTo request next)
    (ofWeb : next.isWebScheme = true) :
    attempt.AsksOrderly (place + 1) (request.redirected next) where
  orderly := asks.orderly.redirected sends ofWeb
  authorization member := by
    rcases Request.name_cases_of_redirected asks.orderly.distinct member with
      isReferer | ⟨before, -⟩
    · exact absurd isReferer (by decide)
    · exact asks.authorization before
  referer _ := Nat.succ_ne_zero place

variable [MultibyteDecoding]

theorem asksOrderly_of_sent {place : Nat} {request : Request}
    (asked : attempt.sent[place]? = some request) : attempt.AsksOrderly place request :=
  induction_on_sent (fun _ => asksOrderly_of_request)
    (fun _ _ _ _ asks => asks.redirected) place request asked

/-- What the head of the request at some place of an upload tells. -/
structure SendsHead (attempt : Attempt) (place : Nat) (lines : List Text) : Prop where
  /-- It is whole, and a body is described exactly where a form is posted. -/
  whole : ∃ method target, Head.IsWhole method target lines ∧
    ∀ name : HeaderName, name = .contentType ∨ name = .contentLength →
      (name.text ∈ Head.names lines ↔ method = .post)
  authorization : HeaderName.authorization.text ∈ Head.names lines →
    attempt.settings.TellCredentials
  referer : HeaderName.referer.text ∈ Head.names lines → place ≠ 0

theorem sendsHead_of_sent {place : Nat} {request : Request}
    (asked : attempt.sent[place]? = some request) : attempt.SendsHead place request.head := by
  have asks := asksOrderly_of_sent asked
  have names := asks.orderly.names_head
  have notHost : ∀ name : HeaderName, name ≠ .host →
      (name.text ∈ Head.names request.head ↔ name.text ∈ request.headers.names) := by
    intro name differs
    rw [names, List.mem_append, List.mem_singleton]
    constructor
    · rintro (member | isHost)
      · exact member
      · exact absurd (HeaderName.text_injective isHost) differs
    · exact Or.inl
  refine ⟨⟨_, _, asks.orderly.isWhole, ?_⟩, ?_, ?_⟩
  · intro name describes
    have differs : name ≠ .host := by rcases describes with rfl | rfl <;> decide
    rw [notHost name differs]
    exact asks.orderly.describes name describes
  · rw [notHost .authorization (by decide)]
    exact asks.authorization
  · rw [notHost .referer (by decide)]
    exact asks.referer

end Attempt

end UploadProbe
