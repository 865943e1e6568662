import Mathlib
import UploadProbe.Upload.Sample

/-!
# The steps of an upload

An upload through a scripted server is a function of the script. Each step of it has one equation
here: what it gives, and what is left of the script behind it.
-/

namespace UploadProbe

namespace Script

theorem deliver_run (network : Network) (request : Request) (script : Script) :
    (deliver network request).run script =
      match network request.url with
      | some error => (.unconnected error, script)
      | none =>
        if request.offered.length < request.declared then (.cutShort, script)
        else (.answered (script.receive request).1, (script.receive request).2) := by
  unfold StateT.run deliver
  cases network request.url with
  | some error => rfl
  | none => rfl

theorem received_receive (script : Script) (request : Request) :
    (script.receive request).2.received = script.received ++ [request] := by
  cases script with
  | mk replies received => cases replies <;> rfl

end Script

namespace Exchange

theorem ask_run (deliver : Request → StateM Script Delivery) (url : Url) (request : Request)
    (script : Script) :
    (ask deliver url request).run script =
      match (deliver request).run script with
      | (.unconnected error, left) => (.error (unsent url request (.connect url error)), left)
      | (.cutShort, left) =>
        (.error (.bodyTooShort url (request.declared - request.offered.length)), left)
      | (.answered reply, left) =>
        (if leavesPiece request then .error (.bodyNotTaken url) else Response.ofReply url reply,
          left) := by
  simp only [ask, StateT.run_bind]
  rcases (deliver request).run script with ⟨delivery, left⟩
  cases delivery with
  | unconnected error => rfl
  | cutShort => rfl
  | answered reply =>
      simp only [bind]
      split <;> rfl

/-- A request either never counts, and leaves the script as it was, or it uses up one reply and
gives what is in that reply. -/
theorem ask_cases (network : Network) (url : Url) (request : Request) (script : Script) :
    (∃ error, (ask (Script.deliver network) url request).run script = (.error error, script)) ∨
      (ask (Script.deliver network) url request).run script =
        (if leavesPiece request then .error (.bodyNotTaken url)
          else Response.ofReply url (script.receive request).1, (script.receive request).2) := by
  rw [ask_run, Script.deliver_run]
  cases network request.url with
  | some error => exact Or.inl ⟨_, rfl⟩
  | none =>
      dsimp only
      by_cases short : request.offered.length < request.declared
      · rw [if_pos short]
        exact Or.inl ⟨_, rfl⟩
      · rw [if_neg short]
        exact Or.inr rfl

variable [HostMapping]

/-- An exchange ends with the first answer that is a failure or redirects nowhere. -/
theorem follow_run (deliver : Request → StateM Script Delivery) (url : Url)
    (redirections : Nat) (request : Request) (script : Script) :
    (follow deliver url redirections request).run script =
      match (ask deliver url request).run script with
      | (.error error, left) => (.error error, left)
      | (.ok response, left) =>
        match response.redirection? request with
        | none => (.ok response, left)
        | some next =>
          match redirections with
          | 0 => (.error (.tooManyRedirects url), left)
          | redirections + 1 =>
            if next.isWebScheme then
              (follow deliver url redirections (request.redirected next)).run left
            else (.error (.scheme url), left) := by
  rw [follow, StateT.run_bind]
  rcases (ask deliver url request).run script with ⟨asked, left⟩
  cases asked with
  | error error => rfl
  | ok response =>
      simp only [bind]
      cases response.redirection? request with
      | none => rfl
      | some next =>
          cases redirections with
          | zero => rfl
          | succ redirections =>
              dsimp only
              split <;> rfl

/-- What an exchange comes to after one request: a failure before or behind it, the response to it,
or what the exchange comes to that follows the redirection in that response. -/
theorem follow_cases (network : Network) (url : Url) (redirections : Nat) (request : Request)
    (script : Script) :
    (∃ error, (follow (Script.deliver network) url redirections request).run script =
        (.error error, script)) ∨
      (∃ error, (follow (Script.deliver network) url redirections request).run script =
        (.error error, (script.receive request).2)) ∨
      (∃ response, Response.ofReply url (script.receive request).1 = .ok response ∧
        (follow (Script.deliver network) url redirections request).run script =
          (.ok response, (script.receive request).2)) ∨
      ∃ fewer next, redirections = fewer + 1 ∧
        (follow (Script.deliver network) url redirections request).run script =
          (follow (Script.deliver network) url fewer (request.redirected next)).run
            (script.receive request).2 := by
  rw [follow_run]
  rcases ask_cases network url request script with ⟨error, asked⟩ | asked
  · rw [asked]
    exact Or.inl ⟨error, rfl⟩
  rw [asked]
  right
  split_ifs
  · exact Or.inl ⟨_, rfl⟩
  cases Response.ofReply url (script.receive request).1 with
  | error error => exact Or.inl ⟨error, rfl⟩
  | ok response =>
      dsimp only
      cases response.redirection? request with
      | none => exact Or.inr (Or.inl ⟨response, rfl, rfl⟩)
      | some next =>
          cases redirections with
          | zero => exact Or.inl ⟨_, rfl⟩
          | succ fewer =>
              dsimp only
              split
              · exact Or.inr (Or.inr ⟨fewer, next, rfl, rfl⟩)
              · exact Or.inl ⟨_, rfl⟩

end Exchange

namespace Upload

variable [HostMapping]

/-- An upload has a request if its media type and its URL can be read and there is somebody to send
it to, and then it posts the form. -/
theorem request_ok_iff {boundary : Boundary} {settings : Settings} {sample : Sample}
    {post : Request} :
    request boundary settings sample = .ok post ↔
      ∃ mediaType url, MediaType.read settings.mime = .ok mediaType ∧
        Url.read settings.url = .ok url ∧ url.hasHost = true ∧
        post = Request.postForm (Request.takeCredentials url).1 (Request.takeCredentials url).2
          boundary ⟨settings.field, sample.fileName, mediaType⟩ sample.content sample.length := by
  rw [request]
  cases MediaType.read settings.mime with
  | error error => simp
  | ok mediaType =>
      cases Url.read settings.url with
      | error error => simp
      | ok url =>
          dsimp only
          by_cases hosted : url.hasHost = true
          · rw [if_pos hosted, Except.ok.injEq]
            constructor
            · intro same
              exact ⟨mediaType, url, rfl, rfl, hosted, same.symm⟩
            · rintro ⟨_, _, sameType, sameUrl, -, same⟩
              cases sameType
              cases sameUrl
              exact same.symm
          · rw [if_neg hosted]
            constructor
            · intro impossible
              contradiction
            · rintro ⟨_, _, -, sameUrl, isHosted, -⟩
              cases sameUrl
              exact absurd isHosted hosted

variable [MultibyteDecoding]

/-- A request is sent if its URL can be asked, and the response to it is read to its end. -/
theorem exchange_run (deliver : Request → StateM Script Delivery) (request : Request)
    (script : Script) :
    (exchange deliver request).run script =
      if !request.url.isWebScheme then
        (.error (Exchange.unsent request.url request (.scheme request.url)), script)
      else if !request.url.isSendable then
        (.error (Exchange.unsent request.url request (.unsendable request.url)), script)
      else
        match (Exchange.follow deliver request.url Exchange.redirectionLimit request).run script
        with
        | (.error error, left) => (.error error, left)
        | (.ok response, left) => (response.submission, left) := by
  unfold exchange
  split
  · rfl
  split
  · rfl
  rw [StateT.run_bind]
  rcases (Exchange.follow deliver request.url Exchange.redirectionLimit request).run script with
    ⟨followed, left⟩
  cases followed <;> rfl

theorem run_run (deliver : Request → StateM Script Delivery) (surroundings : Surroundings)
    (settings : Settings) (sample : Sample) (script : Script) :
    (run deliver surroundings settings sample).run script =
      match request surroundings.boundary settings sample with
      | .error error => (.failed error, script)
      | .ok request =>
        if overflows surroundings.clock settings.timeout then (.clockOverflow, script)
        else if isOver settings.timeout then (.failed (.timedOut request.url), script)
        else
          match (exchange deliver request).run script with
          | (.ok submission, left) => (.answered submission, left)
          | (.error error, left) => (.failed error, left) := by
  unfold run
  cases request surroundings.boundary settings sample with
  | error error => rfl
  | ok request =>
      dsimp only
      split
      · rfl
      split
      · rfl
      rw [StateT.run_bind]
      rcases (exchange deliver request).run script with ⟨exchanged, left⟩
      cases exchanged <;> rfl

/-- The clock ends an upload exactly if there is something to send and the end of its timeout lies
beyond what the clock can show. -/
theorem run_eq_clockOverflow_iff (deliver : Request → StateM Script Delivery)
    (surroundings : Surroundings) (settings : Settings) (sample : Sample) (script : Script) :
    ((run deliver surroundings settings sample).run script).1 = .clockOverflow ↔
      (∃ request, Upload.request surroundings.boundary settings sample = .ok request) ∧
        overflows surroundings.clock settings.timeout = true := by
  rw [run_run]
  cases request surroundings.boundary settings sample with
  | error error => simp
  | ok request =>
      dsimp only
      split
      · rename_i overflow
        simp [overflow]
      · rename_i inTime
        simp only [inTime]
        split
        · simp
        rcases (exchange deliver request).run script with ⟨exchanged, left⟩
        cases exchanged <;> simp

end Upload

end UploadProbe
