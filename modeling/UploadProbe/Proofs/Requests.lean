import Mathlib
import UploadProbe.Proofs.UploadSteps

/-!
# The requests of an upload

A server notes the requests of an upload behind those that it has noted before. The first of them
posts the form, and each one behind it follows a redirection: it has no body. So whatever the server
answers, the form is received once at most.
-/

namespace UploadProbe

/-- The value of the first header of a name. -/
def Request.header? (request : Request) (name : HeaderName) : Option Text :=
  (request.headers.find? (·.name = name.text)).map Header.value

/-- Whether some requests are the ones that begin with a given one: nothing, or that request and
others behind it that have no body. -/
def Request.Begins (first : Request) : List Request → Prop
  | [] => True
  | request :: later =>
    request = first ∧ ∀ follower ∈ later, follower.method = .get ∧ follower.body = []

namespace Request

variable {first : Request} {sent : List Request}

/-- A request that follows a redirection begins a series of which nothing has a body. -/
theorem Begins.bodyless {request : Request} {next : Url}
    (begins : (request.redirected next).Begins sent) :
    ∀ follower ∈ sent, follower.method = .get ∧ follower.body = [] := by
  intro follower member
  cases sent with
  | nil => simp at member
  | cons head later =>
      rcases List.mem_cons.mp member with rfl | behind
      · rw [begins.1]
        exact ⟨rfl, rfl⟩
      · exact begins.2 follower behind

theorem Begins.eq_of_post {request : Request} (begins : first.Begins sent)
    (member : request ∈ sent) (posts : request.method = .post) : request = first := by
  cases sent with
  | nil => simp at member
  | cons head later =>
      rcases List.mem_cons.mp member with rfl | behind
      · exact begins.1
      · rw [(begins.2 request behind).1] at posts
        contradiction

end Request

namespace Exchange

variable [HostMapping]
variable (network : Network) (url : Url) (request : Request) (script : Script)

/-- Each redirection that is followed adds a request without a body. -/
theorem received_follow (redirections : Nat) :
    ∃ sent, ((follow (Script.deliver network) url redirections request).run script).2.received =
        script.received ++ sent ∧ request.Begins sent := by
  induction redirections using Nat.strong_induction_on generalizing request script with
  | h redirections inductionHypothesis =>
      have alone : (script.receive request).2.received = script.received ++ [request] ∧
          request.Begins [request] :=
        ⟨Script.received_receive script request, rfl, by simp⟩
      rcases follow_cases network url redirections request script with
        ⟨error, ended⟩ | ⟨error, ended⟩ | ⟨response, -, ended⟩ | ⟨fewer, next, rfl, goesOn⟩
      · rw [ended]
        exact ⟨[], (List.append_nil _).symm, trivial⟩
      · rw [ended]
        exact ⟨[request], alone⟩
      · rw [ended]
        exact ⟨[request], alone⟩
      · rw [goesOn]
        rcases inductionHypothesis fewer (Nat.lt_succ_self fewer) (request.redirected next)
          (script.receive request).2 with ⟨sent, received, begins⟩
        refine ⟨request :: sent, ?_, rfl, begins.bodyless⟩
        rw [received, alone.1, List.append_assoc]
        rfl

end Exchange

namespace Upload

variable [HostMapping] [MultibyteDecoding]

theorem received_exchange (network : Network) (request : Request) (script : Script) :
    ∃ sent, ((exchange (Script.deliver network) request).run script).2.received =
        script.received ++ sent ∧ request.Begins sent := by
  have nothing : ∃ sent, script.received = script.received ++ sent ∧ request.Begins sent :=
    ⟨[], (List.append_nil _).symm, trivial⟩
  rw [exchange_run]
  split
  · exact nothing
  split
  · exact nothing
  rcases Exchange.received_follow network request.url request script Exchange.redirectionLimit
    with ⟨sent, received, begins⟩
  refine ⟨sent, ?_, begins⟩
  rw [← received]
  rcases (Exchange.follow (Script.deliver network) request.url Exchange.redirectionLimit
    request).run script with ⟨followed, left⟩
  cases followed <;> rfl

/-- Nothing is received of an upload without a request, and of any other its request and those that
follow redirections. -/
theorem received_run (network : Network) (surroundings : Surroundings) (settings : Settings)
    (sample : Sample) (script : Script) :
    ∃ sent, ((run (Script.deliver network) surroundings settings sample).run script).2.received =
        script.received ++ sent ∧
      (sent = [] ∨
        ∃ first, request surroundings.boundary settings sample = .ok first ∧
          first.Begins sent) := by
  have nothing : ∃ sent, script.received = script.received ++ sent ∧
      (sent = [] ∨
        ∃ first, request surroundings.boundary settings sample = .ok first ∧
          first.Begins sent) :=
    ⟨[], (List.append_nil _).symm, Or.inl rfl⟩
  rw [run_run]
  cases requested : request surroundings.boundary settings sample with
  | error error => exact ⟨[], (List.append_nil _).symm, Or.inl rfl⟩
  | ok first =>
      rw [requested] at nothing
      dsimp only
      split
      · exact nothing
      split
      · exact nothing
      rcases received_exchange network first script with ⟨sent, received, begins⟩
      refine ⟨sent, ?_, Or.inr ⟨first, rfl, begins⟩⟩
      rw [← received]
      rcases (exchange (Script.deliver network) first).run script with ⟨exchanged, left⟩
      cases exchanged <;> rfl

end Upload

/-- An upload of a sample, and what it meets: the way to its server, the clock and the boundary, and
the replies that wait for it. -/
structure Attempt where
  network : Network
  surroundings : Surroundings
  settings : Settings
  sample : Sample
  script : Script

namespace Attempt

variable [HostMapping] [MultibyteDecoding]
variable (attempt : Attempt)

def request : Except UploadError Request :=
  Upload.request attempt.surroundings.boundary attempt.settings attempt.sample

/-- How the upload ends, and what is left of the script. -/
def ended : UploadEnd × Script :=
  (Upload.run (Script.deliver attempt.network) attempt.surroundings attempt.settings
    attempt.sample).run attempt.script

def sent : List Request :=
  attempt.ended.2.received.drop attempt.script.received.length

def posts : List Request :=
  attempt.sent.filter (·.method = .post)

theorem sent_cases :
    attempt.sent = [] ∨ ∃ first, attempt.request = .ok first ∧ first.Begins attempt.sent := by
  rcases Upload.received_run attempt.network attempt.surroundings attempt.settings attempt.sample
    attempt.script with ⟨sent, received, cases⟩
  have same : attempt.sent = sent := by
    rw [Attempt.sent, ended, received, List.drop_left]
  rw [same]
  exact cases

/-- What the server has received as a form is the request of the upload. -/
theorem request_of_posted {attempt : Attempt} {post : Request} (posted : post ∈ attempt.posts) :
    attempt.request = .ok post := by
  rw [posts, List.mem_filter, decide_eq_true_eq] at posted
  rcases attempt.sent_cases with nothing | ⟨first, requested, begins⟩
  · rw [nothing] at posted
    simp at posted
  · rw [requested, begins.eq_of_post posted.1 posted.2]

end Attempt

end UploadProbe
