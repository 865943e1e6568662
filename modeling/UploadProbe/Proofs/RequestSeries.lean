import Mathlib
import UploadProbe.Libraries
import UploadProbe.Proofs.PostedForms
import UploadProbe.Proofs.Redirections

/-!
# The series of requests of an upload

An upload runs the course of one exchange, from the request that posts its form. So the form is
posted once at most, every further request stands behind a redirection and has no body, and what is
reported has been read of the reply to the last request.
-/

namespace UploadProbe

/-- The end of an upload that has come to something. -/
def UploadEnd.ofResult : Except UploadError Submission → UploadEnd
  | .ok submission => .answered submission
  | .error error => .failed error

namespace Attempt

variable [HostMapping] [MultibyteDecoding]
variable (attempt : Attempt)

/-- What an upload leaves of its script: one reply is used up for each request. -/
def scriptBehind : Script :=
  ⟨attempt.script.replies.drop attempt.sent.length, attempt.script.received ++ attempt.sent⟩

/-- Whether an upload runs the course of an exchange that begins with a request and comes to a
response or a failure. -/
structure Runs (post : Request) (followed : Except UploadError Response) : Prop where
  requested : attempt.request = .ok post
  course : Exchange.Course post.url Exchange.redirectionLimit post attempt.script.replies
    attempt.sent followed
  ended : attempt.ended.1 = .ofResult (followed.bind Response.submission)
  received : attempt.ended.2 = attempt.scriptBehind

/-- An upload sends nothing and is not answered, or it runs the course of an exchange. -/
theorem nothing_or_runs :
    (attempt.sent = [] ∧ attempt.ended.2 = attempt.script ∧
        ∀ submission, attempt.ended.1 ≠ .answered submission) ∨
      ∃ post followed, attempt.Runs post followed := by
  have nothing : ∀ ending, attempt.ended = (ending, attempt.script) →
      (∀ submission, ending ≠ .answered submission) →
      attempt.sent = [] ∧ attempt.ended.2 = attempt.script ∧
        ∀ submission, attempt.ended.1 ≠ .answered submission := by
    intro ending same unanswered
    rw [sent, same]
    exact ⟨List.drop_length, rfl, unanswered⟩
  have ran := Upload.run_run (Script.deliver attempt.network) attempt.surroundings
    attempt.settings attempt.sample attempt.script
  rw [← ended, ← request] at ran
  cases requested : attempt.request with
  | error error =>
      rw [requested] at ran
      exact Or.inl (nothing _ ran (by simp))
  | ok post =>
      rw [requested] at ran
      dsimp only at ran
      split at ran
      · exact Or.inl (nothing _ ran (by simp))
      split at ran
      · exact Or.inl (nothing _ ran (by simp))
      rcases Upload.exchange_course attempt.network post attempt.script with
        ⟨error, exchanged⟩ | ⟨sent, followed, exchanged, course⟩
      · rw [exchanged] at ran
        exact Or.inl (nothing _ ran (by simp))
      · right
        have whole : attempt.ended = (.ofResult (followed.bind Response.submission),
            ⟨attempt.script.replies.drop sent.length, attempt.script.received ++ sent⟩) := by
          rw [ran, exchanged]
          cases followed.bind Response.submission <;> rfl
        have same : attempt.sent = sent := by
          rw [Attempt.sent, whole, List.drop_left]
        rw [← same] at course whole
        exact ⟨post, followed, requested, course, congrArg Prod.fst whole, congrArg Prod.snd whole⟩

/-- Whether a request posts the form of an upload to the configured URL, from which a user name and
a password may have been taken. -/
structure IsPost (request : Request) : Prop where
  method : request.method = .post
  url : ∃ configured, Url.read attempt.settings.url = .ok configured ∧
    (request.url = configured ∨ request.url = configured.withoutUserinfo)
  form : ∃ mediaType, MediaType.read attempt.settings.mime = .ok mediaType ∧
    let part : FormPart := ⟨attempt.settings.field, attempt.sample.fileName, mediaType⟩
    let boundary := attempt.surroundings.boundary
    request.offered = part.framed boundary attempt.sample.content ∧
      request.declared = part.framedLength boundary attempt.sample.length ∧
      (attempt.DeclaresTrueLength → Countable request → request.body = request.offered)

/-- Whether a response is what the client reads of the reply to the request at some place. -/
def Reads (place : Nat) (request : Request) (response : Response) : Prop :=
  ∃ url, Exchange.ReadsAt url attempt.script.replies attempt.sent place request response

/-- What holds of the requests of an upload, whatever the server answers. -/
structure SendsOnce : Prop where
  /-- Each request is received behind those before it, and uses up one reply. -/
  received : attempt.ended.2 = attempt.scriptBehind
  atMost : attempt.sent.length ≤ 10
  /-- The form comes first, and what is behind it has neither a body nor a word about one. -/
  form : ∀ first later, attempt.sent = first :: later →
    attempt.IsPost first ∧ ∀ follower ∈ later, follower.IsBare
  /-- A further request follows a redirection in the reply to the one in front of it. -/
  followed : ∀ place request follower, attempt.sent[place]? = some request →
    attempt.sent[place + 1]? = some follower →
    ∃ response, attempt.Reads place request response ∧ response.SendsTo request follower.url ∧
      follower.url.isWebScheme = true ∧ follower = request.redirected follower.url
  /-- A response that redirects nowhere is the last one, and it is what is reported. -/
  final : ∀ place request response, attempt.Reads place request response →
    (∀ next, ¬response.SendsTo request next) →
    attempt.sent.length = place + 1 ∧ attempt.ended.1 = .ofResult response.submission
  /-- The form is not posted again, although the server asks for the same request. -/
  notRepeated : ∀ first response, attempt.Reads 0 first response →
    response.head.status ∈ [307, 308] →
    attempt.sent = [first] ∧ attempt.ended.1 = .ofResult response.submission
  /-- Nothing else is reported as an answer. -/
  answered : ∀ submission, attempt.ended.1 = .answered submission →
    ∃ place request response, attempt.Reads place request response ∧
      attempt.sent.length = place + 1 ∧ (∀ next, ¬response.SendsTo request next) ∧
      response.submission = .ok submission
  /-- A redirection in the reply to the tenth request is a failure. -/
  tooMany : ∀ request response next, attempt.Reads 9 request response →
    response.SendsTo request next → ∃ url, attempt.ended.1 = .failed (.tooManyRedirects url)
  /-- A redirection to a URL that is not one of the web is a failure. -/
  foreign : ∀ place request response next, attempt.Reads place request response →
    response.SendsTo request next → next.isWebScheme = false →
    attempt.sent.length = place + 1 ∧ ∃ error, attempt.ended.1 = .failed error
  /-- Where the true length is declared, the client takes every reply into account. -/
  taken : attempt.DeclaresTrueLength → ∀ request ∈ attempt.sent, Countable request →
    Exchange.leavesPiece request = false

end Attempt

namespace Request

theorem takeCredentials_url (url : Url) :
    (takeCredentials url).1 = url ∨ (takeCredentials url).1 = url.withoutUserinfo := by
  unfold takeCredentials
  cases url.authority with
  | none => exact Or.inl rfl
  | some authority =>
      dsimp only
      split
      · exact Or.inr rfl
      · exact Or.inl rfl

end Request

namespace Attempt

variable [HostMapping]
variable {attempt : Attempt}

theorem isPost_of_request {post : Request} (requested : attempt.request = .ok post) :
    attempt.IsPost post := by
  rcases Upload.request_ok_iff.mp requested with ⟨mediaType, url, mediaRead, urlRead, -, rfl⟩
  refine ⟨rfl, ⟨url, urlRead, Request.takeCredentials_url url⟩, mediaType, mediaRead, rfl, rfl, ?_⟩
  intro trueLength countable
  rw [DeclaresTrueLength] at trueLength
  rw [trueLength] at countable ⊢
  exact Request.body_postForm _ _ _ _ _ countable

theorem nodup_of_request {post : Request} (requested : attempt.request = .ok post) :
    post.headers.names.Nodup := by
  rcases Upload.request_ok_iff.mp requested with ⟨mediaType, url, -, -, -, rfl⟩
  exact Request.nodup_postForm ..

theorem offered_length_of_request {post : Request} (requested : attempt.request = .ok post)
    (trueLength : attempt.DeclaresTrueLength) (countable : Countable post) :
    post.offered.length = post.declared := by
  rcases Upload.request_ok_iff.mp requested with ⟨mediaType, url, -, -, -, rfl⟩
  rw [DeclaresTrueLength] at trueLength
  rw [trueLength] at countable ⊢
  have counted := Request.length_body_postForm (Request.takeCredentials url).1
    (Request.takeCredentials url).2 attempt.surroundings.boundary
    ⟨attempt.settings.field, attempt.sample.fileName, mediaType⟩ attempt.sample.content
  rwa [Request.body_postForm _ _ _ _ _ countable] at counted

theorem leavesPiece_of_request {post : Request} (requested : attempt.request = .ok post)
    (trueLength : attempt.DeclaresTrueLength) (countable : Countable post) :
    Exchange.leavesPiece post = false :=
  Exchange.leavesPiece_of_whole (offered_length_of_request requested trueLength countable)

variable [MultibyteDecoding]

theorem readsAt_of_reads {place : Nat} {request : Request} {response : Response}
    (reads : attempt.Reads place request response) (url : Url) :
    Exchange.ReadsAt url attempt.script.replies attempt.sent place request response := by
  rcases reads with ⟨other, asked, answered⟩
  exact ⟨asked, Exchange.answer_eq_ok answered url⟩

theorem not_reads_of_nothing (nothing : attempt.sent = []) {place : Nat} {request : Request}
    {response : Response} : ¬attempt.Reads place request response := by
  rintro ⟨url, reached, -⟩
  simp [nothing] at reached

theorem sendsOnce_of_nothing (nothing : attempt.sent = [])
    (unchanged : attempt.ended.2 = attempt.script)
    (unanswered : ∀ submission, attempt.ended.1 ≠ .answered submission) : attempt.SendsOnce where
  received := by
    rw [unchanged, scriptBehind, nothing, List.append_nil]
    rfl
  atMost := by simp [nothing]
  form := by simp [nothing]
  followed := by simp [nothing]
  final := fun _ _ _ reads => absurd reads (not_reads_of_nothing nothing)
  notRepeated := fun _ _ reads => absurd reads (not_reads_of_nothing nothing)
  answered := fun submission answered => absurd answered (unanswered submission)
  tooMany := fun _ _ _ reads => absurd reads (not_reads_of_nothing nothing)
  foreign := fun _ _ _ _ reads => absurd reads (not_reads_of_nothing nothing)
  taken := by simp [nothing]

namespace Runs

variable {post : Request} {followed : Except UploadError Response}

theorem eq_post (runs : attempt.Runs post followed) {first : Request} {later : List Request}
    (split : attempt.sent = first :: later) : first = post := by
  rcases runs.course.begins with nothing | ⟨others, same⟩
  · rw [nothing] at split
    contradiction
  · rw [same] at split
    exact (List.cons.inj split).1.symm

theorem final (runs : attempt.Runs post followed) {place : Nat} {request : Request}
    {response : Response} (reads : attempt.Reads place request response)
    (stays : ∀ next, ¬response.SendsTo request next) :
    attempt.sent.length = place + 1 ∧ attempt.ended.1 = .ofResult response.submission := by
  have stays := Response.redirection?_eq_none_iff.mpr stays
  rcases runs.course.cases_of_readsAt (readsAt_of_reads reads post.url) with
    ⟨-, length, same⟩ | ⟨next, leads, -⟩
  · rw [runs.ended, same]
    exact ⟨length, rfl⟩
  · rw [stays] at leads
    contradiction

/-- A status that asks for the same request again redirects nowhere behind the form. -/
theorem notRepeated (runs : attempt.Runs post followed) {first : Request} {response : Response}
    (reads : attempt.Reads 0 first response) (status : response.head.status ∈ [307, 308]) :
    attempt.sent = [first] ∧ attempt.ended.1 = .ofResult response.submission := by
  have isFirst : ∃ later, attempt.sent = first :: later := by
    rcases reads with ⟨url, asked, -⟩
    cases sent : attempt.sent with
    | nil => simp [sent] at asked
    | cons head later =>
        rw [sent, List.getElem?_cons_zero, Option.some_inj] at asked
        exact ⟨later, by rw [asked]⟩
  rcases isFirst with ⟨later, split⟩
  have stays : ∀ next, ¬response.SendsTo first next := by
    rintro next ⟨moved | ⟨-, isGet⟩, -, -⟩
    · simp only [List.mem_cons, List.not_mem_nil, or_false] at status moved
      omega
    · rw [runs.eq_post split, (isPost_of_request runs.requested).method] at isGet
      contradiction
  rcases runs.final reads stays with ⟨length, reported⟩
  rw [split, List.length_cons, Nat.add_right_cancel_iff, List.length_eq_zero_iff] at length
  rw [split, length]
  exact ⟨rfl, reported⟩

theorem answered (runs : attempt.Runs post followed) {submission : Submission}
    (reported : attempt.ended.1 = .answered submission) :
    ∃ place request response, attempt.Reads place request response ∧
      attempt.sent.length = place + 1 ∧ (∀ next, ¬response.SendsTo request next) ∧
      response.submission = .ok submission := by
  rw [runs.ended] at reported
  have course := runs.course
  cases followed with
  | error error => simp [UploadEnd.ofResult, Except.bind] at reported
  | ok response =>
      rcases course.readsAt_of_ended with ⟨place, request, reads, length, stays⟩
      refine ⟨place, request, response, ⟨post.url, reads⟩, length,
        Response.redirection?_eq_none_iff.mp stays, ?_⟩
      cases read : response.submission with
      | error error => simp [UploadEnd.ofResult, Except.bind, read] at reported
      | ok found =>
          simp only [UploadEnd.ofResult, Except.bind, read, UploadEnd.answered.injEq] at reported
          rw [reported]

theorem taken (runs : attempt.Runs post followed) (trueLength : attempt.DeclaresTrueLength)
    {request : Request} (member : request ∈ attempt.sent) (countable : Countable request) :
    Exchange.leavesPiece request = false := by
  rcases List.mem_iff_getElem?.mp member with ⟨place, asked⟩
  cases place with
  | zero =>
      rcases runs.course.begins with nothing | ⟨later, split⟩
      · simp [nothing] at asked
      · rw [split, List.getElem?_cons_zero, Option.some_inj] at asked
        rw [← asked] at countable ⊢
        exact leavesPiece_of_request runs.requested trueLength countable
  | succ place =>
      have before : place < attempt.sent.length :=
        Nat.lt_of_succ_lt (List.getElem?_eq_some_iff.mp asked).1
      rcases runs.course.sendsTo_of_follower (List.getElem?_eq_getElem before) asked with
        ⟨-, -, -, -, same⟩
      rw [same]
      rfl

theorem sendsOnce (runs : attempt.Runs post followed) : attempt.SendsOnce where
  received := runs.received
  atMost := runs.course.length_le
  form := by
    intro first later split
    have bare := runs.course.isBare_of_mem (nodup_of_request runs.requested)
    rw [split, List.tail_cons] at bare
    rw [runs.eq_post split]
    exact ⟨isPost_of_request runs.requested, bare⟩
  followed := by
    intro place request follower asked further
    rcases runs.course.sendsTo_of_follower asked further with
      ⟨response, reads, sends, ofWeb, same⟩
    exact ⟨response, ⟨post.url, reads⟩, sends, ofWeb, same⟩
  final := fun _ _ _ => runs.final
  notRepeated := fun _ _ => runs.notRepeated
  answered := fun _ => runs.answered
  tooMany := by
    intro request response next reads sends
    have leads := Response.redirection?_eq_some_iff.mpr sends
    rcases runs.course.cases_of_readsAt (readsAt_of_reads reads post.url) with
      ⟨stays, -⟩ | ⟨other, -, ⟨-, -, failed⟩ | ⟨more, -⟩ | ⟨more, -⟩⟩
    · rw [leads] at stays
      contradiction
    · rw [runs.ended, failed]
      exact ⟨post.url, rfl⟩
    · exact absurd more (lt_irrefl _)
    · exact absurd more (lt_irrefl _)
  foreign := by
    intro place request response next reads sends isForeign
    have leads := Response.redirection?_eq_some_iff.mpr sends
    rcases runs.course.cases_of_readsAt (readsAt_of_reads reads post.url) with
      ⟨stays, -⟩ | ⟨other, same, rest⟩
    · rw [leads] at stays
      contradiction
    rw [leads, Option.some_inj] at same
    subst same
    rcases rest with ⟨-, length, failed⟩ | ⟨-, -, length, failed⟩ | ⟨-, ofWeb⟩
    · rw [runs.ended, failed]
      exact ⟨length, _, rfl⟩
    · rw [runs.ended, failed]
      exact ⟨length, _, rfl⟩
    · rw [ofWeb] at isForeign
      contradiction
  taken := fun trueLength _ => runs.taken trueLength

end Runs

end Attempt

namespace Attempt

theorem sendsOnce [HostMapping] [MultibyteDecoding] (attempt : Attempt) : attempt.SendsOnce := by
  rcases attempt.nothing_or_runs with ⟨nothing, unchanged, unanswered⟩ | ⟨post, followed, runs⟩
  · exact sendsOnce_of_nothing nothing unchanged unanswered
  · exact runs.sendsOnce

/-- The requests of a probe are those of its upload, if it comes to one. -/
theorem received_run [HostMapping] [MultibyteDecoding] (circumstances : Circumstances)
    (settings : Settings) (sink : Sink) :
    ∃ sent, (circumstances.run settings sink).script.received =
        circumstances.script.received ++ sent ∧
      (sent = [] ∨ ∃ content, circumstances.opened settings = .ok content ∧
        sent = (ofProbe circumstances settings content).sent) := by
  cases opened : circumstances.opened settings with
  | error error =>
      refine ⟨[], ?_, Or.inl rfl⟩
      rw [Circumstances.run, opened, List.append_nil]
      rfl
  | ok content =>
      rw [Circumstances.run, opened]
      by_cases through : (Probe.announced settings sink).failure = none
      · refine ⟨(ofProbe circumstances settings content).sent, ?_, Or.inr ⟨content, rfl, rfl⟩⟩
        rw [Probe.run_of_announced through]
        exact congrArg Script.received (sendsOnce (ofProbe circumstances settings content)).received
      · refine ⟨[], ?_, Or.inl rfl⟩
        rw [Probe.run_of_stopped through, List.append_nil]

/-- Whatever the settings, the sample and the replies are, and whichever names of machines the
mapping accepts in the URLs of redirections, an upload posts its form once at most and ends: each
further request stands behind a redirection, asks for a URL without any body, and is one of ten at
most. A response that redirects nowhere is reported, among them one that asks for the form again,
and a redirection too many is a failure. The requests of a probe are those of one upload, or there
are none. -/
theorem sample_is_sent_once [HostMapping] [MultibyteDecoding] :
    (∀ attempt : Attempt, attempt.SendsOnce) ∧
      ∀ (circumstances : Circumstances) (settings : Settings) (sink : Sink),
        ∃ sent, (circumstances.run settings sink).script.received =
            circumstances.script.received ++ sent ∧
          (sent = [] ∨ ∃ content, circumstances.opened settings = .ok content ∧
            sent = (ofProbe circumstances settings content).sent) :=
  ⟨sendsOnce, received_run⟩

/-- A server that redirects to itself again and again gets ten requests, and the upload fails. -/
theorem endless_redirections_fail :
    let reply : Reply :=
      ⟨Bytes.ofAscii "HTTP/1.1 302 Found\r\nlocation: /submit\r\ncontent-length: 0\r\n\r\n".toList,
        .staysOpen⟩
    let circumstances := { Circumstances.withReply reply with
      script := { replies := List.replicate 12 reply } }
    let attempt := ofProbe circumstances Circumstances.localSettings [0x4D, 0x5A]
    attempt.sent.length = 10 ∧ attempt.posts.length = 1 ∧
      ∃ url, attempt.ended.1 = .failed (.tooManyRedirects url) := by
  intro reply circumstances attempt
  have tenth : (attempt.sent[9]?.any fun request =>
      (Exchange.answer request.url request reply).toOption.any fun response =>
        (response.redirection? request).isSome) = true := by
    decide +kernel
  obtain ⟨request, isTenth, read⟩ := (Option.any_eq_true ..).mp tenth
  cases answered : Exchange.answer request.url request reply with
  | error error => simp [answered, Except.toOption] at read
  | ok response =>
      rw [answered] at read
      obtain ⟨next, leads⟩ := Option.isSome_iff_exists.mp read
      have reads : attempt.Reads 9 request response := ⟨request.url, isTenth, answered⟩
      have sendsTo := Response.redirection?_eq_some_iff.mp leads
      have failed := (sample_is_sent_once.1 attempt).tooMany request response next reads sendsTo
      exact ⟨by decide +kernel, by decide +kernel, failed⟩

end Attempt

end UploadProbe
