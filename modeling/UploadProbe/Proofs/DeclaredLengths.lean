import Mathlib
import UploadProbe.Libraries
import UploadProbe.Proofs.ArrivingRequests

/-!
# Lengths that are declared

The length that is declared for a sample decides how much of its form is sent, whatever is left of
the sample. Of a form that is longer, exactly the declared beginning is sent; one that is shorter is
not sent at all, and the upload fails without having used any reply. A probe declares the length of
what it has opened, so its form is sent whole.
-/

namespace UploadProbe

namespace FormPart

variable (boundary : Boundary) (part : FormPart)

/-- A form is as long as its frame and its data. -/
theorem length_framed_eq_add (data : Bytes) :
    (part.framed boundary data).length = (part.framed boundary []).length + data.length := by
  simp only [framed, List.length_append, List.length_nil]
  omega

theorem framedLength_eq_add {length : Nat}
    (countable : (part.framed boundary []).length + length < lengthModulus) :
    part.framedLength boundary length = (part.framed boundary []).length + length := by
  have sum : (part.opening boundary).length + length + (closing boundary).length =
      (part.framed boundary []).length + length := by
    simp only [framed, List.length_append, List.length_nil]
    omega
  rw [framedLength, sum, Nat.mod_eq_of_lt countable]

end FormPart

namespace Attempt

/-- The same upload of what is left of a content when some octets have been read away, under a
length that is declared for it. -/
def ofRest (attempt : Attempt) (content : Bytes) (readAway declared : Nat) : Attempt :=
  { attempt with
    sample := { attempt.sample with content := content.drop readAway, length := declared } }

variable [HostMapping]

/-- Whether an upload finds a server that takes it: its media type and its URL are valid, there is a
way to the server, and its timeout neither stops the clock nor ends at once. -/
structure FindsServer (attempt : Attempt) (mediaType : Bytes) : Prop where
  mediaRead : MediaType.read attempt.settings.mime = .ok mediaType
  url : ∃ url, Url.read attempt.settings.url = .ok url ∧ url.hasHost = true ∧
    (Request.takeCredentials url).1.isWebScheme = true ∧
    (Request.takeCredentials url).1.isSendable = true ∧
    attempt.network (Request.takeCredentials url).1 = none
  inTime : Upload.overflows attempt.surroundings.clock attempt.settings.timeout = false
  lasts : Upload.isOver attempt.settings.timeout = false

/-- What the form of an upload tells of it. -/
def part (attempt : Attempt) (mediaType : Bytes) : FormPart :=
  ⟨attempt.settings.field, attempt.sample.fileName, mediaType⟩

/-- The form of an upload around some data. -/
def form (attempt : Attempt) (mediaType data : Bytes) : Bytes :=
  (attempt.part mediaType).framed attempt.surroundings.boundary data

variable {attempt : Attempt} {mediaType : Bytes} {post : Request}

/-- Whether a request is the one that an upload sends to its server. -/
structure IsSent (attempt : Attempt) (mediaType : Bytes) (post : Request) : Prop where
  requested : attempt.request = .ok post
  sends : attempt.sends post = true
  connected : attempt.network post.url = none
  offered : post.offered = attempt.form mediaType attempt.sample.content
  declared : post.declared =
    (attempt.part mediaType).framedLength attempt.surroundings.boundary attempt.sample.length
  told : post.header? .contentLength = some (Text.ofNat post.declared)

theorem FindsServer.exists_isSent (finds : attempt.FindsServer mediaType) :
    ∃ post, attempt.IsSent mediaType post := by
  obtain ⟨url, urlRead, hosted, ofWeb, sendable, connected⟩ := finds.url
  refine ⟨Request.postForm (Request.takeCredentials url).1 (Request.takeCredentials url).2
    attempt.surroundings.boundary (attempt.part mediaType) attempt.sample.content
    attempt.sample.length, ?_, ?_, connected, rfl, rfl, ?_⟩
  · exact Upload.request_ok_iff.mpr ⟨mediaType, url, finds.mediaRead, urlRead, hosted, rfl⟩
  · simp [sends, Request.postForm, finds.inTime, finds.lasts, ofWeb, sendable]
  · exact Request.header?_contentLength_postForm ..

namespace IsSent

variable [MultibyteDecoding]

/-- A form that is as long as declared or longer is received, and nothing else is posted. -/
theorem posts_eq (isSent : attempt.IsSent mediaType post)
    (whole : post.declared ≤ post.offered.length) : attempt.posts = [post] := by
  have arrives : Exchange.arrives attempt.network post = true := by
    simp [Exchange.arrives, isSent.connected, whole]
  have begins : ∃ later, attempt.sent = post :: later := by
    rw [sent_eq isSent.requested, if_pos isSent.sends, Exchange.redirectionLimit, Exchange.series,
      if_pos arrives]
    exact ⟨_, rfl⟩
  obtain ⟨later, split⟩ := begins
  rcases attempt.sent_cases with nothing | ⟨first, requested, isFirst⟩
  · rw [nothing] at split
    contradiction
  · rw [split] at isFirst
    have posts : post.method = .post := (isPost_of_request isSent.requested).method
    have others : later.filter (·.method = .post) = [] := by
      rw [List.filter_eq_nil_iff]
      intro follower member
      rw [(isFirst.2 follower member).1]
      decide
    rw [Attempt.posts, split, List.filter_cons_of_pos (by simpa using posts), others]

/-- A form that ends before its declared length is not received, and uses up no reply. -/
theorem ended_of_short (isSent : attempt.IsSent mediaType post)
    (short : post.offered.length < post.declared) :
    attempt.ended =
      (.failed (.bodyTooShort post.url (post.declared - post.offered.length)),
        attempt.script) := by
  have sends := isSent.sends
  simp only [Attempt.sends, Bool.and_eq_true, Bool.not_eq_true'] at sends
  obtain ⟨⟨inTime, lasts⟩, ofWeb, sendable⟩ := sends
  have requested : Upload.request attempt.surroundings.boundary attempt.settings attempt.sample =
      .ok post := isSent.requested
  have asked : (Exchange.ask (Script.deliver attempt.network) post.url post).run attempt.script =
      (.error (.bodyTooShort post.url (post.declared - post.offered.length)), attempt.script) := by
    rw [Exchange.ask_run, Script.deliver_run, isSent.connected]
    simp only [short, if_true]
  have followed : (Exchange.follow (Script.deliver attempt.network) post.url
      Exchange.redirectionLimit post).run attempt.script =
        (.error (.bodyTooShort post.url (post.declared - post.offered.length)),
          attempt.script) := by
    rw [Exchange.follow_run, asked]
  rw [ended]
  simp only [Upload.run_run, requested, inTime, lasts, Bool.false_eq_true, if_false,
    Upload.exchange_run, ofWeb, sendable, Bool.not_true, followed]

end IsSent

namespace FindsServer

section Countable

variable (finds : attempt.FindsServer mediaType)
  (countable : (attempt.form mediaType []).length + attempt.sample.length < FormPart.lengthModulus)

include finds countable

/-- With a length that fits a word, the declared length of the request is that of a form around so
many octets, and what is offered is a form around the octets that are there. -/
theorem exists_isSent_lengths :
    ∃ post, attempt.IsSent mediaType post ∧
      post.declared = (attempt.form mediaType []).length + attempt.sample.length ∧
      post.offered.length = (attempt.form mediaType []).length + attempt.sample.content.length := by
  obtain ⟨post, isSent⟩ := finds.exists_isSent
  refine ⟨post, isSent, ?_, ?_⟩
  · rw [isSent.declared, FormPart.framedLength_eq_add _ _ countable, form]
  · rw [isSent.offered, form, form, FormPart.length_framed_eq_add]

variable [MultibyteDecoding]

/-- A form that is as long as declared or longer is received up to the declared length. -/
theorem posted_bodies (atMost : attempt.sample.length ≤ attempt.sample.content.length) :
    attempt.posts.map Request.body =
      [(attempt.form mediaType attempt.sample.content).take
        ((attempt.form mediaType []).length + attempt.sample.length)] := by
  obtain ⟨post, isSent, declared, offered⟩ := finds.exists_isSent_lengths countable
  rw [isSent.posts_eq (by omega), List.map_singleton, Request.body, isSent.offered, declared]

theorem posted_bodies_of_trueLength (trueLength : attempt.DeclaresTrueLength) :
    attempt.posts.map Request.body = [attempt.form mediaType attempt.sample.content] := by
  have length : (attempt.form mediaType attempt.sample.content).length =
      (attempt.form mediaType []).length + attempt.sample.length := by
    rw [form, FormPart.length_framed_eq_add, form, trueLength]
  rw [finds.posted_bodies countable trueLength.le, ← length, List.take_length]

/-- A form that is shorter than declared fails by as many octets as the sample is. -/
theorem ended_of_declared_more (greater : attempt.sample.content.length < attempt.sample.length) :
    ∃ url, attempt.ended =
      (.failed (.bodyTooShort url (attempt.sample.length - attempt.sample.content.length)),
        attempt.script) := by
  obtain ⟨post, isSent, declared, offered⟩ := finds.exists_isSent_lengths countable
  have missing : post.declared - post.offered.length =
      attempt.sample.length - attempt.sample.content.length := by omega
  rw [← missing]
  exact ⟨post.url, isSent.ended_of_short (by omega)⟩

theorem sent_of_declared_more
    (greater : attempt.sample.content.length < attempt.sample.length) : attempt.sent = [] := by
  obtain ⟨url, ended⟩ := finds.ended_of_declared_more countable greater
  rw [sent, ended]
  exact List.drop_length

/-- Whatever is received is a beginning of the form, and exactly as long as its header tells. -/
theorem body_of_posted (posted : post ∈ attempt.posts) :
    post.body <+: attempt.form mediaType attempt.sample.content ∧
      post.body.length = (attempt.form mediaType []).length + attempt.sample.length ∧
      post.header? .contentLength =
        some (Text.ofNat ((attempt.form mediaType []).length + attempt.sample.length)) := by
  obtain ⟨sentPost, isSent, declared, offered⟩ := finds.exists_isSent_lengths countable
  have same := request_of_posted posted
  rw [isSent.requested, Except.ok.injEq] at same
  subst same
  have atMost : attempt.sample.length ≤ attempt.sample.content.length := by
    by_contra greater
    rw [posts, finds.sent_of_declared_more countable (not_le.mp greater)] at posted
    contradiction
  refine ⟨?_, ?_, ?_⟩
  · rw [Request.body, isSent.offered]
    exact List.take_prefix _ _
  · rw [Request.body, List.length_take]
    omega
  · rw [isSent.told, declared]

end Countable

end FindsServer

end Attempt

namespace Attempt

/-- Of a form, what is declared is sent if it is there, and nothing if it is not: a form that is as
long as declared arrives whole, of a longer one the declared beginning arrives, and a shorter one
fails without a request and without a reply. A probe declares the length of what it has opened, so
its form arrives whole. -/
theorem declared_length_bounds_form [HostMapping] [MultibyteDecoding] (attempt : Attempt)
    (circumstances : Circumstances) (settings : Settings) (mediaType content : Bytes)
    (readAway declared : Nat) :
    (attempt.FindsServer mediaType →
      let remaining := content.length - readAway
      let upload := attempt.ofRest content readAway declared
      let whole := attempt.form mediaType (content.drop readAway)
      let bare := (attempt.form mediaType []).length
      bare + declared < FormPart.lengthModulus →
      (declared = remaining → upload.posts.map Request.body = [whole]) ∧
      (declared < remaining →
        upload.posts.map Request.body = [whole.take (bare + declared)]) ∧
      (∀ post ∈ upload.posts, post.body <+: whole ∧ post.body.length = bare + declared ∧
        post.header? .contentLength = some (Text.ofNat (bare + declared))) ∧
      (remaining < declared → upload.sent = [] ∧
        ∃ url, upload.ended =
            (.failed (.bodyTooShort url (declared - remaining)), attempt.script) ∧
          (UploadError.bodyTooShort url (declared - remaining)).causes.head? =
            some "Failed to send submit request".toList)) ∧
    (circumstances.opened settings = .ok content →
      let probe := ofProbe circumstances settings content
      probe.ofRest content 0 content.length = probe ∧
        circumstances.uploaded settings content = probe.ended ∧
        (probe.FindsServer mediaType →
          (probe.form mediaType []).length + content.length < FormPart.lengthModulus →
          probe.posts.map Request.body = [probe.form mediaType content])) := by
  constructor
  · intro finds remaining upload whole bare countable
    have findsRest : upload.FindsServer mediaType :=
      ⟨finds.mediaRead, finds.url, finds.inTime, finds.lasts⟩
    have isRemaining : upload.sample.content.length = remaining := List.length_drop
    refine ⟨fun same => ?_, fun less => ?_, fun post posted => ?_, fun greater => ?_⟩
    · exact findsRest.posted_bodies_of_trueLength countable (same.trans isRemaining.symm)
    · exact findsRest.posted_bodies countable (less.le.trans_eq isRemaining.symm)
    · exact findsRest.body_of_posted countable posted
    · rw [← isRemaining] at greater ⊢
      obtain ⟨url, ended⟩ := findsRest.ended_of_declared_more countable greater
      exact ⟨findsRest.sent_of_declared_more countable greater, url, ended, rfl⟩
  · intro opened probe
    refine ⟨rfl, rfl, fun finds countable => ?_⟩
    exact finds.posted_bodies_of_trueLength countable (declaresTrueLength_ofProbe ..)

/-- A machine with a server that answers with nothing and closes. -/
def localCircumstances : Circumstances :=
  .withReply ⟨Bytes.ofAscii "HTTP/1.1 200 OK\r\ncontent-length: 0\r\n\r\n".toList, .closes⟩

/-- The upload of a probe there. -/
def localAttempt : Attempt :=
  ofProbe localCircumstances Circumstances.localSettings [0x4D, 0x5A]

theorem localAttempt_findsServer :
    localAttempt.FindsServer (Bytes.ofAscii "application/octet-stream".toList) where
  mediaRead := by decide +kernel
  url := by
    have valid : ((Url.read localAttempt.settings.url).toOption.any fun url => url.hasHost &&
        (Request.takeCredentials url).1.isWebScheme &&
        (Request.takeCredentials url).1.isSendable &&
        (localAttempt.network (Request.takeCredentials url).1).isNone) = true := by
      decide +kernel
    cases urlRead : Url.read localAttempt.settings.url with
    | error error => simp [urlRead, Except.toOption] at valid
    | ok url =>
        simp only [urlRead, Except.toOption, Option.any_some, Bool.and_eq_true,
          Option.isNone_iff_eq_none] at valid
        rcases valid with ⟨⟨⟨hosted, ofWeb⟩, sendable⟩, connected⟩
        exact ⟨url, rfl, hosted, ofWeb, sendable, connected⟩
  inTime := rfl
  lasts := rfl

/-- The sample of a probe is sent whole. If its first octet had been read away before, a declared
length of none would cut the form within its last line, and one of two would be one too many. -/
theorem form_is_cut_within_last_line :
    let content : Bytes := [0x4D, 0x5A]
    let mediaType := Bytes.ofAscii "application/octet-stream".toList
    let bare := (localAttempt.form mediaType []).length
    (localAttempt.FindsServer mediaType ∧ bare + 2 < FormPart.lengthModulus ∧
        localCircumstances.opened Circumstances.localSettings = .ok content) ∧
      localAttempt.posts.map Request.body = [localAttempt.form mediaType content] ∧
      (localAttempt.ofRest content 1 0).posts.map Request.body =
        [(localAttempt.form mediaType [0x5A]).take bare] ∧
      (localAttempt.ofRest content 1 2).sent = [] := by
  intro content mediaType bare
  have countable : bare + 2 < FormPart.lengthModulus := by decide +kernel
  have opened : localCircumstances.opened Circumstances.localSettings = .ok content := by
    decide +kernel
  have bounds := declared_length_bounds_form localAttempt localCircumstances
    Circumstances.localSettings mediaType content 1
  refine ⟨⟨localAttempt_findsServer, countable, opened⟩, ?_, ?_, ?_⟩
  · exact ((bounds 0).2 opened).2.2 localAttempt_findsServer countable
  · exact ((bounds 0).1 localAttempt_findsServer (by omega)).2.1 (by decide)
  · exact (((bounds 2).1 localAttempt_findsServer countable).2.2.2 (by decide)).1

end Attempt

end UploadProbe
