import Mathlib
import UploadProbe.Proofs.RequestHeaders

/-!
# Following redirections

The course of an exchange is told by what comes of one request after the other: it does not reach
the server, nothing can be read of the reply to it, the reply redirects nowhere, or it redirects to
a URL that the next request asks for. So every request behind the first stands behind a reply that
redirects to it, the form is posted once, and an exchange comes to an end however the redirections
run in circles.
-/

namespace UploadProbe

theorem Script.receive_eq (script : Script) (request : Request) :
    script.receive request = (script.replies.headD Script.exhausted,
      ⟨script.replies.drop 1, script.received ++ [request]⟩) := by
  cases script with
  | mk replies received => cases replies <;> rfl

namespace Response

theorem redirects_iff (method : Method) (status : Nat) :
    redirects method status = true ↔
      status ∈ [301, 302, 303] ∨ (status ∈ [307, 308] ∧ method = .get) := by
  cases method with
  | post => simp [redirects]
  | get => simp [redirects, or_assoc]

variable [HostMapping]

/-- Whether a response to a request sends the client to a URL: by its status, which counts for more
where the request had no body, and by a location that leads to a URL that a request can carry. -/
structure SendsTo (response : Response) (request : Request) (next : Url) : Prop where
  status : response.head.status ∈ [301, 302, 303] ∨
    (response.head.status ∈ [307, 308] ∧ request.method = .get)
  location : ∃ location reference, (response.head.values locationName).head? = some location ∧
    Utf8.decode? location = some reference ∧ request.url.resolve reference = .ok next
  sendable : next.isSendable = true

theorem redirection?_eq_some_iff {response : Response} {request : Request} {next : Url} :
    response.redirection? request = some next ↔ response.SendsTo request next := by
  constructor
  · intro redirected
    rw [redirection?] at redirected
    split at redirected
    · rename_i redirects
      simp only [Option.bind_eq_bind, Option.bind_eq_some_iff] at redirected
      rcases redirected with ⟨location, first, reference, decoded, resolved⟩
      split at resolved
      · rename_i url found
        split at resolved
        · rename_i sendable
          injection resolved with same
          rw [← same]
          exact ⟨(redirects_iff ..).mp redirects, ⟨location, reference, first, decoded, found⟩,
            sendable⟩
        · contradiction
      · contradiction
    · contradiction
  · rintro ⟨status, ⟨location, reference, first, decoded, resolved⟩, sendable⟩
    simp only [redirection?, (redirects_iff ..).mpr status, first, decoded, resolved, sendable,
      if_true, Option.bind_eq_bind, Option.bind_some]

theorem redirection?_eq_none_iff {response : Response} {request : Request} :
    response.redirection? request = none ↔ ∀ next, ¬response.SendsTo request next := by
  rw [Option.eq_none_iff_forall_ne_some]
  constructor
  · intro none next sends
    exact none next (redirection?_eq_some_iff.mpr sends)
  · intro none next redirected
    exact none next (redirection?_eq_some_iff.mp redirected)

end Response

namespace Exchange

/-- What is read of the reply to a request that has reached the server. -/
def answer (url : Url) (request : Request) (reply : Reply) : Except UploadError Response :=
  if leavesPiece request then .error (.bodyNotTaken url) else Response.ofReply url reply

/-- The URL of the upload is told in failures only. -/
theorem answer_eq_ok {url : Url} {request : Request} {reply : Reply} {response : Response}
    (answered : answer url request reply = .ok response) (other : Url) :
    answer other request reply = .ok response := by
  rw [answer] at answered ⊢
  split at answered
  · contradiction
  rename_i taken
  rw [if_neg taken]
  rw [Response.ofReply] at answered ⊢
  cases read : ReplyHead.read reply.raw with
  | refused error => simp [read] at answered
  | partway reading => cases ending : reply.ending <;> simp [read, ending] at answered
  | complete head octets =>
      simp only [read] at answered ⊢
      cases framed : Framing.ofHead head with
      | error error => simp [framed] at answered
      | ok framing =>
          simp only [framed] at answered ⊢
          exact answered

theorem leavesPiece_of_whole {request : Request}
    (whole : request.offered.length = request.declared) : leavesPiece request = false := by
  have inside : ¬(request.declared / pieceLength + 1) * pieceLength < request.declared := by
    have split := Nat.div_add_mod request.declared pieceLength
    have less := Nat.mod_lt request.declared (show pieceLength > 0 by decide)
    rw [Nat.add_mul, Nat.one_mul, Nat.mul_comm]
    omega
  simp [leavesPiece, whole, inside]

/-- Whether a response is what is read of the reply to the request at some place. -/
def ReadsAt (url : Url) (replies : List Reply) (sent : List Request) (place : Nat)
    (request : Request) (response : Response) : Prop :=
  sent[place]? = some request ∧
    answer url request (replies.getD place Script.exhausted) = .ok response

theorem headD_drop (replies : List Reply) (place : Nat) :
    (replies.drop place).headD Script.exhausted = replies.getD place Script.exhausted := by
  rw [List.headD_eq_head?_getD, List.head?_drop, List.getD_eq_getElem?_getD]

variable [HostMapping]

/-- The course of an exchange that may follow so many redirections, from a request and the replies
that wait for it to the requests that reach the server and to what comes of them. -/
inductive Course (url : Url) :
    Nat → Request → List Reply → List Request → Except UploadError Response → Prop where
  /-- The request does not reach the server. -/
  | unsent (redirections request replies error) :
      Course url redirections request replies [] (.error error)
  | unread {redirections request replies error}
      (asked : answer url request (replies.headD Script.exhausted) = .error error) :
      Course url redirections request replies [request] (.error error)
  | final {redirections request replies response}
      (asked : answer url request (replies.headD Script.exhausted) = .ok response)
      (stays : response.redirection? request = none) :
      Course url redirections request replies [request] (.ok response)
  | tooMany {request replies response next}
      (asked : answer url request (replies.headD Script.exhausted) = .ok response)
      (leads : response.redirection? request = some next) :
      Course url 0 request replies [request] (.error (.tooManyRedirects url))
  | foreign {redirections request replies response next}
      (asked : answer url request (replies.headD Script.exhausted) = .ok response)
      (leads : response.redirection? request = some next) (isForeign : next.isWebScheme = false) :
      Course url (redirections + 1) request replies [request] (.error (.scheme url))
  | followed {redirections request replies response next later ended}
      (asked : answer url request (replies.headD Script.exhausted) = .ok response)
      (leads : response.redirection? request = some next) (ofWeb : next.isWebScheme = true)
      (behind : Course url redirections (request.redirected next) (replies.drop 1) later ended) :
      Course url (redirections + 1) request replies (request :: later) ended

/-- An exchange runs its course, and uses up one reply for each request that reaches the server. -/
theorem follow_course (network : Network) (url : Url) (redirections : Nat) (request : Request)
    (script : Script) :
    ∃ sent ended, (follow (Script.deliver network) url redirections request).run script =
        (ended, ⟨script.replies.drop sent.length, script.received ++ sent⟩) ∧
      Course url redirections request script.replies sent ended := by
  induction redirections using Nat.strong_induction_on generalizing request script with
  | h redirections inductionHypothesis =>
      rw [follow_run]
      rcases ask_cases network url request script with ⟨error, asked⟩ | asked
      · refine ⟨[], .error error, ?_, .unsent redirections request script.replies error⟩
        rw [asked]
        simp
      rw [Script.receive_eq, ← answer] at asked
      rw [asked]
      cases read : answer url request (script.replies.headD Script.exhausted) with
      | error error => exact ⟨[request], .error error, rfl, .unread read⟩
      | ok response =>
          dsimp only
          cases leads : response.redirection? request with
          | none => exact ⟨[request], .ok response, rfl, .final read leads⟩
          | some next =>
              cases redirections with
              | zero => exact ⟨[request], _, rfl, .tooMany read leads⟩
              | succ fewer =>
                  dsimp only
                  split
                  · rename_i ofWeb
                    rcases inductionHypothesis fewer (Nat.lt_succ_self fewer)
                        (request.redirected next)
                        ⟨script.replies.drop 1, script.received ++ [request]⟩ with
                      ⟨later, ended, ran, behind⟩
                    refine ⟨request :: later, ended, ?_, .followed read leads ofWeb behind⟩
                    rw [ran, List.drop_drop, List.append_assoc, List.length_cons, Nat.add_comm 1]
                    rfl
                  · rename_i isForeign
                    exact ⟨[request], _, rfl,
                      .foreign read leads (Bool.not_eq_true _ ▸ isForeign)⟩

namespace Course

variable {url : Url} {redirections : Nat} {first : Request} {replies : List Reply}
  {sent : List Request} {ended : Except UploadError Response}

theorem length_le (course : Course url redirections first replies sent ended) :
    sent.length ≤ redirections + 1 := by
  induction course with
  | unsent => simp
  | unread => simp
  | final => simp
  | tooMany => simp
  | foreign => simp
  | followed asked leads ofWeb behind inductionHypothesis =>
      rw [List.length_cons]
      omega

theorem begins (course : Course url redirections first replies sent ended) :
    sent = [] ∨ ∃ later, sent = first :: later := by
  cases course with
  | unsent => exact Or.inl rfl
  | unread => exact Or.inr ⟨[], rfl⟩
  | final => exact Or.inr ⟨[], rfl⟩
  | tooMany => exact Or.inr ⟨[], rfl⟩
  | foreign => exact Or.inr ⟨[], rfl⟩
  | followed => exact Or.inr ⟨_, rfl⟩

/-- Where a request is bare and its headers are distinct, all that follow it are bare. -/
theorem isBare_of_mem (course : Course url redirections first replies sent ended)
    (distinct : first.headers.names.Nodup) : ∀ follower ∈ sent.tail, follower.IsBare := by
  have single : ∀ request : Request, ∀ follower ∈ [request].tail, follower.IsBare := by simp
  induction course with
  | unsent => simp
  | unread => exact single _
  | final => exact single _
  | tooMany => exact single _
  | foreign => exact single _
  | @followed _ request _ _ next _ _ asked leads ofWeb behind inductionHypothesis =>
      rcases Request.isBare_redirected distinct next with ⟨bare, distinctThen⟩
      intro follower member
      rw [List.tail_cons] at member
      rcases behind.begins with rfl | ⟨later, rfl⟩
      · simp at member
      rcases List.mem_cons.mp member with rfl | further
      · exact bare
      · exact inductionHypothesis distinctThen follower further

/-- From each of its requests on, a course is a course that may follow so many redirections less. -/
theorem at_place (course : Course url redirections first replies sent ended) {place : Nat}
    {request : Request} (reached : sent[place]? = some request) :
    ∃ left, left + place = redirections ∧
      Course url left request (replies.drop place) (sent.drop place) ended := by
  have alone : ∀ {only : Request} {place : Nat}, [only][place]? = some request →
      place = 0 ∧ only = request := by
    intro only place found
    cases place with
    | zero => exact ⟨rfl, Option.some_inj.mp found⟩
    | succ place => simp at found
  induction course generalizing place with
  | unsent => simp at reached
  | unread asked =>
      rcases alone reached with ⟨rfl, rfl⟩
      exact ⟨_, rfl, .unread asked⟩
  | final asked stays =>
      rcases alone reached with ⟨rfl, rfl⟩
      exact ⟨_, rfl, .final asked stays⟩
  | tooMany asked leads =>
      rcases alone reached with ⟨rfl, rfl⟩
      exact ⟨_, rfl, .tooMany asked leads⟩
  | foreign asked leads isForeign =>
      rcases alone reached with ⟨rfl, rfl⟩
      exact ⟨_, rfl, .foreign asked leads isForeign⟩
  | followed asked leads ofWeb behind inductionHypothesis =>
      cases place with
      | zero =>
          rw [List.getElem?_cons_zero, Option.some_inj] at reached
          rw [← reached]
          exact ⟨_, rfl, .followed asked leads ofWeb behind⟩
      | succ place =>
          rw [List.getElem?_cons_succ] at reached
          rcases inductionHypothesis reached with ⟨left, fewer, further⟩
          rw [List.drop_drop, Nat.add_comm 1] at further
          exact ⟨left, by rw [← fewer, Nat.add_assoc], further⟩

/-- What becomes of an exchange whose first reply has been read: it ends with that reply, or with
one of two failures, or it goes on with the request that follows the redirection. -/
theorem cases_of_read (course : Course url redirections first replies sent ended)
    (reached : sent ≠ []) {response : Response}
    (read : answer url first (replies.headD Script.exhausted) = .ok response) :
    (response.redirection? first = none ∧ sent = [first] ∧ ended = .ok response) ∨
      ∃ next, response.redirection? first = some next ∧
        ((redirections = 0 ∧ sent = [first] ∧ ended = .error (.tooManyRedirects url)) ∨
          (0 < redirections ∧ next.isWebScheme = false ∧ sent = [first] ∧
            ended = .error (.scheme url)) ∨
          (0 < redirections ∧ next.isWebScheme = true)) := by
  cases course with
  | unsent => contradiction
  | unread asked =>
      rw [asked] at read
      contradiction
  | final asked stays =>
      rw [← Except.ok.inj (asked.symm.trans read)]
      exact Or.inl ⟨stays, rfl, rfl⟩
  | tooMany asked leads =>
      rw [← Except.ok.inj (asked.symm.trans read)]
      exact Or.inr ⟨_, leads, Or.inl ⟨rfl, rfl, rfl⟩⟩
  | foreign asked leads isForeign =>
      rw [← Except.ok.inj (asked.symm.trans read)]
      exact Or.inr ⟨_, leads, Or.inr (Or.inl ⟨Nat.succ_pos _, isForeign, rfl, rfl⟩)⟩
  | followed asked leads ofWeb behind =>
      rw [← Except.ok.inj (asked.symm.trans read)]
      exact Or.inr ⟨_, leads, Or.inr (Or.inr ⟨Nat.succ_pos _, ofWeb⟩)⟩

theorem cases_of_readsAt (course : Course url redirections first replies sent ended) {place : Nat}
    {request : Request} {response : Response}
    (reads : ReadsAt url replies sent place request response) :
    (response.redirection? request = none ∧ sent.length = place + 1 ∧ ended = .ok response) ∨
      ∃ next, response.redirection? request = some next ∧
        ((place = redirections ∧ sent.length = place + 1 ∧
            ended = .error (.tooManyRedirects url)) ∨
          (place < redirections ∧ next.isWebScheme = false ∧ sent.length = place + 1 ∧
            ended = .error (.scheme url)) ∨
          (place < redirections ∧ next.isWebScheme = true)) := by
  rcases reads with ⟨reached, read⟩
  rcases course.at_place reached with ⟨left, rfl, further⟩
  have inside : place < sent.length := (List.getElem?_eq_some_iff.mp reached).1
  have isThere : sent.drop place ≠ [] := by
    rw [Ne, List.drop_eq_nil_iff]
    omega
  have last : ∀ only : Request, sent.drop place = [only] → sent.length = place + 1 := by
    intro only same
    have length := congrArg List.length same
    rw [List.length_drop, List.length_singleton] at length
    omega
  rw [← headD_drop] at read
  rcases further.cases_of_read isThere read with ⟨stays, single, same⟩ | ⟨next, leads, rest⟩
  · exact Or.inl ⟨stays, last _ single, same⟩
  · refine Or.inr ⟨next, leads, ?_⟩
    rcases rest with ⟨none, single, failed⟩ | ⟨some, isForeign, single, failed⟩ | ⟨some, ofWeb⟩
    · exact Or.inl ⟨by omega, last _ single, failed⟩
    · exact Or.inr (Or.inl ⟨by omega, isForeign, last _ single, failed⟩)
    · exact Or.inr (Or.inr ⟨by omega, ofWeb⟩)

theorem sendsTo_of_second (course : Course url redirections first replies sent ended)
    {follower : Request} (second : sent[1]? = some follower) :
    ∃ response, answer url first (replies.headD Script.exhausted) = .ok response ∧
      response.SendsTo first follower.url ∧ follower.url.isWebScheme = true ∧
      follower = first.redirected follower.url := by
  cases course with
  | unsent => simp at second
  | unread => simp at second
  | final => simp at second
  | tooMany => simp at second
  | foreign => simp at second
  | followed asked leads ofWeb behind =>
      rcases behind.begins with rfl | ⟨later, rfl⟩
      · simp at second
      · rw [List.getElem?_cons_succ, List.getElem?_cons_zero, Option.some_inj] at second
        rw [← second]
        exact ⟨_, asked, Response.redirection?_eq_some_iff.mp leads, ofWeb, rfl⟩

/-- Behind each request but the last stands a reply that redirects to what the next one asks for. -/
theorem sendsTo_of_follower (course : Course url redirections first replies sent ended)
    {place : Nat} {request follower : Request} (reached : sent[place]? = some request)
    (further : sent[place + 1]? = some follower) :
    ∃ response, ReadsAt url replies sent place request response ∧
      response.SendsTo request follower.url ∧ follower.url.isWebScheme = true ∧
      follower = request.redirected follower.url := by
  rcases course.at_place reached with ⟨left, -, fromThere⟩
  rcases fromThere.sendsTo_of_second (by rwa [List.getElem?_drop]) with ⟨response, read, sends⟩
  rw [headD_drop] at read
  exact ⟨response, ⟨reached, read⟩, sends⟩

/-- What comes of an exchange is read of the reply to its last request. -/
theorem readsAt_of_ended {response : Response}
    (course : Course url redirections first replies sent (.ok response)) :
    ∃ place request, ReadsAt url replies sent place request response ∧
      sent.length = place + 1 ∧ response.redirection? request = none := by
  generalize same : (Except.ok response : Except UploadError Response) = ended at course
  induction course with
  | unsent => contradiction
  | unread => contradiction
  | @final _ request replies _ asked stays =>
      rw [Except.ok.inj same]
      exact ⟨0, request, ⟨rfl, by rwa [← headD_drop]⟩, rfl, stays⟩
  | tooMany => contradiction
  | foreign => contradiction
  | followed asked leads ofWeb behind inductionHypothesis =>
      rcases inductionHypothesis same with ⟨place, request, ⟨reached, read⟩, length, stays⟩
      rw [← headD_drop, List.drop_drop, Nat.add_comm 1, headD_drop] at read
      exact ⟨place + 1, request, ⟨by rwa [List.getElem?_cons_succ], read⟩,
        by rw [List.length_cons, length], stays⟩

end Course

end Exchange

namespace Upload

variable [HostMapping] [MultibyteDecoding]

/-- An exchange of an upload follows redirections from its request on. -/
theorem exchange_course (network : Network) (post : Request) (script : Script) :
    (∃ error, (exchange (Script.deliver network) post).run script = (.error error, script)) ∨
      ∃ sent ended, (exchange (Script.deliver network) post).run script =
          (ended.bind Response.submission,
            ⟨script.replies.drop sent.length, script.received ++ sent⟩) ∧
        Exchange.Course post.url Exchange.redirectionLimit post script.replies sent ended := by
  rw [exchange_run]
  split
  · exact Or.inl ⟨_, rfl⟩
  split
  · exact Or.inl ⟨_, rfl⟩
  right
  rcases Exchange.follow_course network post.url Exchange.redirectionLimit post script with
    ⟨sent, ended, ran, course⟩
  refine ⟨sent, ended, ?_, course⟩
  rw [ran]
  cases ended <;> rfl

end Upload

end UploadProbe
