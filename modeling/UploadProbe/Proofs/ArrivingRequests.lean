import Mathlib
import UploadProbe.Proofs.RequestSeries

/-!
# The requests that arrive

Which requests of an exchange reach the server is told by a recursion over the redirections that are
left: a request, if it arrives, and behind it those that begin with what its reply redirects to. So
two exchanges can be compared by their requests alone.
-/

namespace UploadProbe

namespace Exchange

/-- Whether a request reaches the server, with as much of a body as it declares. -/
def arrives (network : Network) (request : Request) : Bool :=
  (network request.url).isNone && request.declared ≤ request.offered.length

/-- The URL that an exchange goes on with behind the reply to a request. -/
def followed? [HostMapping] (request : Request) (reply : Reply) : Option Url :=
  match answer request.url request reply with
  | .ok response => (response.redirection? request).filter Url.isWebScheme
  | .error _ => none

/-- The requests that reach the server in an exchange that may follow so many redirections. -/
def series [HostMapping] (network : Network) :
    (redirections : Nat) → Request → List Reply → List Request
  | 0, request, _ => if arrives network request then [request] else []
  | redirections + 1, request, replies =>
    if arrives network request then
      request :: (followed? request (replies.headD Script.exhausted)).elim [] fun next =>
        series network redirections (request.redirected next) (replies.drop 1)
    else []

variable {network : Network} {url : Url} {request : Request} {script : Script}

theorem ask_of_arrives (isArriving : arrives network request = true) :
    (ask (Script.deliver network) url request).run script =
      (answer url request (script.replies.headD Script.exhausted),
        ⟨script.replies.drop 1, script.received ++ [request]⟩) := by
  rw [arrives, Bool.and_eq_true, Option.isNone_iff_eq_none, decide_eq_true_eq] at isArriving
  rw [ask_run, Script.deliver_run, isArriving.1]
  dsimp only
  rw [if_neg (Nat.not_lt.mpr isArriving.2), Script.receive_eq]
  rfl

theorem ask_of_not_arrives (isLost : arrives network request = false) :
    ∃ error, (ask (Script.deliver network) url request).run script = (.error error, script) := by
  rw [ask_run, Script.deliver_run]
  cases connected : network request.url with
  | some error => exact ⟨_, rfl⟩
  | none =>
      have short : request.offered.length < request.declared := by
        simpa [arrives, connected] using isLost
      dsimp only
      rw [if_pos short]
      exact ⟨_, rfl⟩

variable [HostMapping]

/-- The URL that is told in failures makes no difference to what is followed. -/
theorem followed?_eq (url : Url) (request : Request) (reply : Reply) :
    followed? request reply =
      match answer url request reply with
      | .ok response => (response.redirection? request).filter Url.isWebScheme
      | .error _ => none := by
  unfold followed?
  cases read : answer request.url request reply with
  | ok response => rw [answer_eq_ok read url]
  | error error =>
      cases other : answer url request reply with
      | error error => rfl
      | ok response =>
          rw [answer_eq_ok other request.url] at read
          contradiction

/-- Behind a request that arrives, an exchange goes on with the URL that it follows, if it may
follow another one. -/
theorem follow_of_arrives (isArriving : arrives network request = true) (redirections : Nat) :
    let left : Script := ⟨script.replies.drop 1, script.received ++ [request]⟩
    ((follow (Script.deliver network) url redirections request).run script).2 =
      match redirections, followed? request (script.replies.headD Script.exhausted) with
      | fewer + 1, some next =>
        ((follow (Script.deliver network) url fewer (request.redirected next)).run left).2
      | _, _ => left := by
  intro left
  rw [follow_run, ask_of_arrives isArriving, followed?_eq url]
  cases answer url request (script.replies.headD Script.exhausted) with
  | error error => cases redirections <;> rfl
  | ok response =>
      dsimp only
      cases response.redirection? request with
      | none => cases redirections <;> rfl
      | some next =>
          cases redirections with
          | zero => rfl
          | succ fewer =>
              cases ofWeb : next.isWebScheme with
              | false => simp [Option.filter, ofWeb, left]
              | true => simp [Option.filter, ofWeb, left]

/-- A server notes the series of an exchange behind what it has noted before. -/
theorem received_follow_eq_series (network : Network) (url : Url) (redirections : Nat)
    (request : Request) (script : Script) :
    ((follow (Script.deliver network) url redirections request).run script).2.received =
      script.received ++ series network redirections request script.replies := by
  have lost (redirections : Nat) {request : Request} {script : Script}
      (isLost : arrives network request = false) :
      ((follow (Script.deliver network) url redirections request).run script).2.received =
        script.received ++ series network redirections request script.replies := by
    rcases ask_of_not_arrives isLost with ⟨error, asked⟩
    rw [follow_run, asked]
    cases redirections <;> simp [series, isLost]
  induction redirections generalizing request script with
  | zero =>
      cases isArriving : arrives network request with
      | false => exact lost 0 isArriving
      | true => rw [follow_of_arrives isArriving, series, if_pos isArriving]
  | succ redirections inductionHypothesis =>
      cases isArriving : arrives network request with
      | false => exact lost (redirections + 1) isArriving
      | true =>
          rw [follow_of_arrives isArriving, series, if_pos isArriving]
          cases followed? request (script.replies.headD Script.exhausted) with
          | none => rfl
          | some next =>
              dsimp only
              rw [inductionHypothesis, List.append_assoc]
              rfl

end Exchange

namespace Upload

variable [HostMapping] [MultibyteDecoding]

/-- Nothing is noted of an exchange whose URL is not one of the web or cannot be carried. -/
theorem received_exchange_eq_series (network : Network) (post : Request) (script : Script) :
    ((exchange (Script.deliver network) post).run script).2.received =
      script.received ++ if post.url.isWebScheme && post.url.isSendable then
        Exchange.series network Exchange.redirectionLimit post script.replies else [] := by
  have nothing : script.received = script.received ++ [] := (List.append_nil _).symm
  rw [exchange_run]
  cases ofWeb : post.url.isWebScheme with
  | false => exact nothing
  | true =>
      cases sendable : post.url.isSendable with
      | false => exact nothing
      | true =>
          have received := Exchange.received_follow_eq_series network post.url
            Exchange.redirectionLimit post script
          generalize (Exchange.follow (Script.deliver network) post.url
            Exchange.redirectionLimit post).run script = run at received ⊢
          rcases run with ⟨followed, left⟩
          cases followed with
          | error error => exact received
          | ok response => exact received

end Upload

namespace Attempt

variable {attempt : Attempt}

/-- Whether an upload with a request gets so far as to send it. -/
def sends (attempt : Attempt) (post : Request) : Bool :=
  !Upload.overflows attempt.surroundings.clock attempt.settings.timeout &&
    !Upload.isOver attempt.settings.timeout && (post.url.isWebScheme && post.url.isSendable)

variable [HostMapping] [MultibyteDecoding]

theorem sent_eq {post : Request} (requested : attempt.request = .ok post) :
    attempt.sent = if attempt.sends post then
      Exchange.series attempt.network Exchange.redirectionLimit post attempt.script.replies
      else [] := by
  have ran := Upload.run_run (Script.deliver attempt.network) attempt.surroundings
    attempt.settings attempt.sample attempt.script
  rw [← ended, ← request, requested] at ran
  dsimp only at ran
  have nothing : attempt.script.received.drop attempt.script.received.length = [] :=
    List.drop_length
  rw [sent, ran, sends]
  cases overflows : Upload.overflows attempt.surroundings.clock attempt.settings.timeout with
  | true => exact nothing
  | false =>
      cases isOver : Upload.isOver attempt.settings.timeout with
      | true => exact nothing
      | false =>
          have received :=
            Upload.received_exchange_eq_series attempt.network post attempt.script
          generalize (Upload.exchange (Script.deliver attempt.network) post).run attempt.script =
            run at received ⊢
          rcases run with ⟨exchanged, left⟩
          have received : left.received = attempt.script.received ++ _ := received
          cases exchanged with
          | error error =>
              change left.received.drop attempt.script.received.length = _
              rw [received, List.drop_left]
              rfl
          | ok submission =>
              change left.received.drop attempt.script.received.length = _
              rw [received, List.drop_left]
              rfl

theorem sent_of_error {error : UploadError} (refused : attempt.request = .error error) :
    attempt.sent = [] := by
  rcases attempt.sent_cases with nothing | ⟨post, requested, -⟩
  · exact nothing
  · rw [refused] at requested
    contradiction

end Attempt

end UploadProbe
