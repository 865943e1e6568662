import Mathlib
import UploadProbe.Libraries
import UploadProbe.Proofs.RequestSeries
import UploadProbe.Upload.Series

/-!
# Uploads that share a client

A client carries nothing from one upload to the next but its idle connections, and a connection is
idle only if its response has been read to the end. So where no reply has octets behind its
response, every connection is as good as a new one, whichever of them the client keeps and for how
long; and each upload of a series comes to what it would have come to on its own, with the replies
that those before it have left.
-/

namespace UploadProbe

/-- Whether two computations give the same from related states, and leave related states behind. -/
def Agree {left right result : Type} (related : left → right → Prop) (first : StateM left result)
    (second : StateM right result) : Prop :=
  ∀ state other, related state other →
    (first.run state).1 = (second.run other).1 ∧ related (first.run state).2 (second.run other).2

namespace Agree

variable {left right result next : Type} {related : left → right → Prop}

theorem pure (value : result) :
    Agree related (Pure.pure value : StateM left result) (Pure.pure value : StateM right result) :=
  fun _ _ areRelated => ⟨rfl, areRelated⟩

theorem bind {first : StateM left result} {second : StateM right result}
    {behind : result → StateM left next} {behindSecond : result → StateM right next}
    (agree : Agree related first second)
    (agreeBehind : ∀ value, Agree related (behind value) (behindSecond value)) :
    Agree related (first >>= behind) (second >>= behindSecond) := by
  intro state other areRelated
  obtain ⟨same, areRelated⟩ := agree state other areRelated
  have agreed := agreeBehind (first.run state).1 _ _ areRelated
  rw [same] at agreed
  rw [StateT.run_bind, StateT.run_bind]
  change ((behind (first.run state).1).run (first.run state).2).1 = _ ∧ related
    ((behind (first.run state).1).run (first.run state).2).2 _
  rw [same]
  exact agreed

section Deliveries

variable {deliver : Request → StateM left Delivery} {otherDeliver : Request → StateM right Delivery}

theorem ask (agree : ∀ request, Agree related (deliver request) (otherDeliver request)) (url : Url)
    (request : Request) :
    Agree related (Exchange.ask deliver url request) (Exchange.ask otherDeliver url request) := by
  refine (agree request).bind fun delivery => ?_
  cases delivery with
  | unconnected error => exact .pure _
  | cutShort => exact .pure _
  | answered reply =>
      dsimp only
      split
      · exact .pure _
      · exact .pure _

variable [HostMapping]

/-- The chain of redirections, by induction on how many of them may be followed. -/
theorem follow (agree : ∀ request, Agree related (deliver request) (otherDeliver request))
    (url : Url) (redirections : Nat) (request : Request) :
    Agree related (Exchange.follow deliver url redirections request)
      (Exchange.follow otherDeliver url redirections request) := by
  induction redirections generalizing request with
  | zero =>
      rw [Exchange.follow, Exchange.follow]
      refine (ask agree url request).bind fun asked => ?_
      cases asked with
      | error error => exact .pure _
      | ok response =>
          dsimp only
          cases response.redirection? request <;> exact .pure _
  | succ redirections inductionHypothesis =>
      rw [Exchange.follow, Exchange.follow]
      refine (ask agree url request).bind fun asked => ?_
      cases asked with
      | error error => exact .pure _
      | ok response =>
          dsimp only
          cases response.redirection? request with
          | none => exact .pure _
          | some next =>
              dsimp only
              split
              · exact inductionHypothesis _
              · exact .pure _

variable [MultibyteDecoding]

theorem exchange (agree : ∀ request, Agree related (deliver request) (otherDeliver request))
    (request : Request) :
    Agree related (Upload.exchange deliver request) (Upload.exchange otherDeliver request) := by
  unfold Upload.exchange
  split
  · exact .pure _
  split
  · exact .pure _
  refine (follow agree _ _ request).bind fun followed => ?_
  cases followed <;> exact .pure _

/-- An upload makes nothing of its deliveries but what they give. -/
theorem run (agree : ∀ request, Agree related (deliver request) (otherDeliver request))
    (surroundings : Surroundings) (settings : Settings) (sample : Sample) :
    Agree related (Upload.run deliver surroundings settings sample)
      (Upload.run otherDeliver surroundings settings sample) := by
  unfold Upload.run
  cases Upload.request surroundings.boundary settings sample with
  | error error => exact .pure _
  | ok request =>
      dsimp only
      split
      · exact .pure _
      split
      · exact .pure _
      refine (exchange agree request).bind fun exchanged => ?_
      cases exchanged <;> exact .pure _

end Deliveries

end Agree

/-- The network as a client meets it. -/
def Network.ofOrigins (network : Network) : Network :=
  fun url => network.reach url.origin

/-- Whether the way to a server is the same for all of its URLs. -/
def Network.LeadsToOrigins (network : Network) : Prop :=
  ∀ url other : Url, url.origin = other.origin → network url = network other

theorem Network.LeadsToOrigins.ofOrigins_eq {network : Network} (leads : network.LeadsToOrigins) :
    network.ofOrigins = network :=
  funext fun _ => leads _ _ rfl

theorem Network.loopback_leadsToOrigins (port : Nat) : LeadsToOrigins (loopback port) := by
  intro url other same
  obtain ⟨sameScheme, sameAuthority⟩ := Origin.mk.inj same
  rw [loopback, loopback, Url.portOrUsual?, Url.portOrUsual?, sameScheme, sameAuthority]

/-- Whether nothing stands behind the response of a reply, if that has an end of its own. -/
def Reply.EndsWithResponse (reply : Reply) : Prop :=
  ∀ response ∈ reply.response?, response.2 = []

instance (reply : Reply) : Decidable reply.EndsWithResponse :=
  inferInstanceAs (Decidable (∀ response ∈ reply.response?, response.2 = []))

theorem Reply.EndsWithResponse.leaves? {reply : Reply} (ends : reply.EndsWithResponse)
    {unread : Bytes} (leaves : reply.leaves? = some unread) : unread = [] := by
  rw [Reply.leaves?] at leaves
  split at leaves
  next head behind isResponse =>
    split at leaves
    · cases leaves
      exact ends _ isResponse
    · contradiction
  next => contradiction

/-- Whether a client keeps no connection on which a reply has left octets. -/
def Keeping.Spares (keeps : Keeping) (reply : Reply) : Prop :=
  ∀ turn connection, reply.leaves? = some connection.unread → keeps turn connection = true →
    connection.unread = []

theorem Keeping.spares_of_endsWithResponse (keeps : Keeping) {reply : Reply}
    (ends : reply.EndsWithResponse) : keeps.Spares reply :=
  fun _ _ leaves _ => ends.leaves? leaves

theorem Keeping.noticing_spares (reply : Reply) : Keeping.noticing.Spares reply :=
  fun _ _ _ keeps => List.isEmpty_iff.mp keeps

theorem Keeping.spares_exhausted (keeps : Keeping) : keeps.Spares Script.exhausted := by
  intro turn connection leaves
  have none : Script.exhausted.leaves? = none := by decide
  rw [none] at leaves
  contradiction

/-- No matter which of its replies a server gives next, its octets are not kept where the replies'
are not. -/
theorem Keeping.spares_receive {keeps : Keeping} {script : Script}
    (spares : ∀ reply ∈ script.replies, keeps.Spares reply) (request : Request) :
    keeps.Spares (script.receive request).1 ∧
      ∀ reply ∈ (script.receive request).2.replies, keeps.Spares reply := by
  rw [Script.receive]
  cases replies : script.replies with
  | nil => exact ⟨keeps.spares_exhausted, by simp⟩
  | cons reply others =>
      rw [replies] at spares
      exact ⟨spares reply List.mem_cons_self,
        fun other member => spares other (List.mem_cons_of_mem _ member)⟩

/-- Whether a connection, as long as a client may use it, is as good as a new one: there is nothing
to read on it and it leads where the client could connect to. -/
structure Connection.IsLikeNew (keeps : Keeping) (network : Network) (connection : Connection) :
    Prop where
  nothingUnread : ∀ turn, keeps turn connection = true → connection.unread = []
  reached : network.reach connection.origin = none

namespace Client

variable {keeps : Keeping} {network : Network}

/-- Whether a client stands before a server with a script, and neither its connections nor what is
to come can do any harm. -/
structure StandsBefore (keeps : Keeping) (network : Network) (client : Client) (script : Script) :
    Prop where
  script_eq : client.script = script
  likeNew : ∀ connection ∈ client.idle, connection.IsLikeNew keeps network
  spares : ∀ reply ∈ script.replies, keeps.Spares reply

/-- There is a connection exactly where the network leads, and it is as good as a new one. -/
theorem connect_cases {client : Client}
    (likeNew : ∀ connection ∈ client.idle, connection.IsLikeNew keeps network) (origin : Origin) :
    (∃ error, network.reach origin = some error ∧
        client.connect keeps network origin = .error error) ∨
      ∃ connection others, network.reach connection.origin = none ∧ connection.origin = origin ∧
        client.connect keeps network origin = .ok (connection, others) ∧ connection.unread = [] ∧
        ∀ other ∈ others, other ∈ client.idle := by
  rw [connect]
  have kept : ∀ other ∈ client.idle.filter (keeps client.turn), other ∈ client.idle :=
    fun other member => (List.mem_filter.mp member).1
  split
  next connection found =>
    have isOrigin := List.find?_some found
    rw [decide_eq_true_eq] at isOrigin
    obtain ⟨isIdle, isKept⟩ := List.mem_filter.mp (List.mem_of_find?_eq_some found)
    have isLikeNew := likeNew connection isIdle
    exact .inr ⟨connection, _, isLikeNew.reached, isOrigin, rfl,
      isLikeNew.nothingUnread client.turn isKept,
      fun other member => kept other (List.mem_of_mem_erase member)⟩
  next =>
    cases reached : network.reach origin with
    | some error => exact .inl ⟨error, rfl, rfl⟩
    | none => exact .inr ⟨_, _, reached, rfl, rfl, rfl, kept⟩

/-- What is delivered over connections that are as good as new is what would be delivered over new
ones, and they stay as good as new. -/
theorem deliver_agree (request : Request) :
    Agree (StandsBefore keeps network) (deliver keeps network request)
      (Script.deliver network.ofOrigins request) := by
  rintro client script ⟨rfl, likeNew, spares⟩
  rw [Script.deliver_run]
  change ((deliver keeps network request) client).1 = _ ∧
    StandsBefore keeps network ((deliver keeps network request) client).2 _
  rw [deliver, Network.ofOrigins]
  dsimp only
  rcases connect_cases likeNew request.url.origin with
    ⟨error, unreached, isError⟩ |
    ⟨connection, others, reached, isOrigin, isConnection, nothing, among⟩
  · rw [unreached, isError]
    exact ⟨rfl, rfl, likeNew, spares⟩
  have othersLikeNew : ∀ other ∈ others, other.IsLikeNew keeps network :=
    fun other member => likeNew other (among other member)
  rw [← isOrigin, reached, isOrigin, isConnection]
  dsimp only
  split
  · exact ⟨rfl, rfl, othersLikeNew, spares⟩
  · rw [nothing, List.nil_append]
    obtain ⟨sparesReply, sparesOthers⟩ := Keeping.spares_receive spares request
    refine ⟨rfl, rfl, fun other member => ?_, sparesOthers⟩
    dsimp only at member
    split at member
    next unread leaves =>
      rcases List.mem_cons.mp member with rfl | member
      · exact ⟨fun turn keepsIt => sparesReply turn _ leaves keepsIt, reached⟩
      · exact othersLikeNew other member
    next => exact othersLikeNew other member

end Client

/-- An upload uses up one reply for each request that is received. -/
theorem Attempt.script_behind [HostMapping] [MultibyteDecoding] (attempt : Attempt) :
    attempt.ended.2 = attempt.scriptBehind := by
  rcases attempt.nothing_or_runs with ⟨nothing, unchanged, -⟩ | ⟨post, followed, runs⟩
  · rw [scriptBehind, nothing, unchanged, List.length_nil, List.drop_zero, List.append_nil]
  · exact runs.received

theorem Upload.step_replies [HostMapping] [MultibyteDecoding] (network : Network)
    (surroundings : Surroundings) (settings : Settings) (sample : Sample) (replies : List Reply) :
    (step network surroundings settings sample replies).2 =
      replies.drop (step network surroundings settings sample replies).1.received.length := by
  let attempt : Attempt := ⟨network, surroundings, settings, sample, { replies }⟩
  have behind := attempt.script_behind
  have received : attempt.ended.2.received = attempt.sent :=
    (congrArg Script.received behind).trans (List.nil_append _)
  change attempt.ended.2.replies = replies.drop attempt.ended.2.received.length
  rw [received, behind]
  rfl

namespace Client

variable {keeps : Keeping} {network : Network}

/-- What a series of uploads begins with: connections as good as new, and replies that do no harm.
-/
structure IsReady (keeps : Keeping) (network : Network) (client : Client) (replies : List Reply) :
    Prop where
  replies_eq : client.script.replies = replies
  likeNew : ∀ connection ∈ client.idle, connection.IsLikeNew keeps network
  spares : ∀ reply ∈ replies, keeps.Spares reply

theorem isReady_fresh {replies : List Reply} (spares : ∀ reply ∈ replies, keeps.Spares reply) :
    IsReady keeps network { script := { replies } } replies :=
  ⟨rfl, by simp, spares⟩

variable [HostMapping] [MultibyteDecoding]

/-- An upload of a client comes to what it would come to over connections of its own, and the client
is ready to go on with the replies that are left. -/
theorem IsReady.upload {client : Client} {replies : List Reply}
    (ready : client.IsReady keeps network replies) (settings : Settings)
    (surroundings : Surroundings) (sample : Sample) :
    (client.upload keeps network settings surroundings sample).1 =
        (Upload.step network.ofOrigins surroundings settings sample replies).1 ∧
      (client.upload keeps network settings surroundings sample).2.IsReady keeps network
        (Upload.step network.ofOrigins surroundings settings sample replies).2 := by
  obtain ⟨rfl, likeNew, spares⟩ := ready
  have agree := Agree.run deliver_agree surroundings settings sample
    { client with script := { client.script with received := [] } }
    { replies := client.script.replies } ⟨rfl, likeNew, spares⟩
  obtain ⟨sameEnding, sameScript, likeNewBehind, sparesBehind⟩ := agree
  let told (ending : UploadEnd) (script : Script) : UploadStep :=
    ⟨ending, script.received, [settings.uploadEvent sample]⟩
  exact ⟨congrArg₂ told sameEnding sameScript, congrArg Script.replies sameScript, likeNewBehind,
    sparesBehind⟩

/-- The uploads of a series, one by one. The induction is on the uploads, and what it carries along
is that the client is ready for those that are still to come. -/
theorem uploads_getElem? (settings : Settings)
    {uploads : List (Surroundings × Sample)} {client : Client} {replies : List Reply}
    (ready : client.IsReady keeps network replies) {index : Nat} {surroundings : Surroundings}
    {sample : Sample} (isUpload : uploads[index]? = some (surroundings, sample)) :
    (client.uploads keeps network settings uploads)[index]? =
      some (Upload.step network.ofOrigins surroundings settings sample (replies.drop
        (((client.uploads keeps network settings uploads).take index).map
          fun step => step.received.length).sum)).1 := by
  induction uploads generalizing client replies index with
  | nil => contradiction
  | cons first rest inductionHypothesis =>
      obtain ⟨firstSurroundings, firstSample⟩ := first
      have done := ready.upload settings firstSurroundings firstSample
      rw [uploads]
      dsimp only
      cases index with
      | zero =>
          cases isUpload
          exact congrArg some done.1
      | succ index =>
          rw [Upload.step_replies] at done
          have behind := inductionHypothesis done.2 isUpload
          rw [List.getElem?_cons_succ, behind, List.take_succ_cons, List.map_cons, List.sum_cons,
            done.1, List.drop_drop]

theorem length_uploads (settings : Settings) (uploads : List (Surroundings × Sample))
    (client : Client) :
    (client.uploads keeps network settings uploads).length = uploads.length := by
  induction uploads generalizing client with
  | nil => rfl
  | cons first rest inductionHypothesis =>
      rw [Client.uploads, List.length_cons, List.length_cons, inductionHypothesis]

end Client

/-- A client that gives up connections with octets that nobody has asked for needs nothing of its
replies. -/
theorem Upload.series_getElem? [HostMapping] [MultibyteDecoding] (network : Network)
    (surroundings : Surroundings) (settings : Settings) {samples : List Sample}
    (replies : List Reply) {index : Nat} {sample : Sample}
    (isSample : samples[index]? = some sample) :
    (series network surroundings settings samples replies)[index]? =
      some (step network.ofOrigins surroundings settings sample (replies.drop
        (((series network surroundings settings samples replies).take index).map
          fun step => step.received.length).sum)).1 := by
  have isUpload : (samples.map fun sample => (surroundings, sample))[index]? =
      some (surroundings, sample) := by
    rw [List.getElem?_map, isSample]
    rfl
  exact Client.uploads_getElem? settings
    (Client.isReady_fresh fun reply _ => Keeping.noticing_spares reply) isUpload

/-- Uploads through one client come to what each comes to through a client of its own that finds the
replies that the uploads before it have left, one for each request that was received. This holds
whichever connections the clients keep and whatever the uploads come to, if no reply has octets
behind its response. Where the way to a server does not depend on anything but the server, it is
also what an upload comes to over a new connection for each request. -/
theorem uploads_through_one_client_are_apart [HostMapping] [MultibyteDecoding]
    (keeps freshKeeps : Keeping) (network : Network) (settings : Settings)
    (uploads : List (Surroundings × Sample)) (replies : List Reply)
    (ends : ∀ reply ∈ replies, reply.EndsWithResponse) :
    let steps := Client.uploads keeps network settings uploads { script := { replies } }
    steps.length = uploads.length ∧
      ∀ index surroundings sample, uploads[index]? = some (surroundings, sample) →
        let used := ((steps.take index).map fun step => step.received.length).sum
        let fresh : Client := { script := { replies := replies.drop used } }
        steps[index]? =
            some (fresh.upload freshKeeps network settings surroundings sample).1 ∧
          (network.LeadsToOrigins → steps[index]? =
            some (Upload.step network surroundings settings sample (replies.drop used)).1) := by
  intro steps
  refine ⟨Client.length_uploads settings uploads _, fun index surroundings sample isUpload => ?_⟩
  intro used fresh
  have ready : Client.IsReady keeps network { script := { replies } } replies :=
    Client.isReady_fresh fun reply member => keeps.spares_of_endsWithResponse (ends reply member)
  have freshReady : fresh.IsReady freshKeeps network (replies.drop used) :=
    Client.isReady_fresh fun reply member =>
      freshKeeps.spares_of_endsWithResponse (ends reply (List.mem_of_mem_drop member))
  have isStep : steps[index]? = some
      (Upload.step network.ofOrigins surroundings settings sample (replies.drop used)).1 :=
    Client.uploads_getElem? settings ready isUpload
  refine ⟨?_, fun leads => ?_⟩
  · rw [isStep, (freshReady.upload settings surroundings sample).1]
  · rw [isStep, leads.ofOrigins_eq]

/-- A response that leaves its connection to the next request. -/
def keptReply : Reply :=
  ⟨Bytes.ofAscii "HTTP/1.1 200 OK\r\ncontent-length: 2\r\n\r\nOK".toList, .staysOpen⟩

/-- A response that breaks off. -/
def brokenReply : Reply :=
  ⟨Bytes.ofAscii "HTTP/1.1 200 OK\r\ncontent-length: 9\r\n\r\nOK".toList, .closes⟩

/-- Behind an upload that left its connection open, one that had less to send than it declared and
one whose response broke off, the last upload comes to what it comes to through a client of its own.
-/
theorem upload_behind_failures_is_apart :
    let network := Network.loopback 5001
    let settings : Settings := { url := "http://127.0.0.1:5001/submit".toList }
    let surroundings : Surroundings := ⟨⟨0, 0, by decide⟩, ⟨0, 0, 0, 0⟩⟩
    let whole : Sample := { fileName := "a".toList, content := [0x4D] }
    let short : Sample := { whole with length := 2 }
    let uploads := [whole, short, whole, whole].map fun sample => (surroundings, sample)
    let replies := [keptReply, brokenReply, keptReply]
    let steps := Client.uploads (fun _ _ => true) network settings uploads { script := { replies } }
    let fresh : Client := { script := { replies := [keptReply] } }
    (∀ reply ∈ replies, reply.EndsWithResponse) ∧ Network.LeadsToOrigins network ∧
      keptReply.leaves? = some [] ∧ steps.map (fun step => step.received.length) = [1, 0, 1, 1] ∧
      steps[3]? = some (fresh.upload .noticing network settings surroundings whole).1 ∧
      steps[3]? = some (Upload.step network surroundings settings whole [keptReply]).1 := by
  intro network settings surroundings whole short uploads replies steps fresh
  have ends : ∀ reply ∈ replies, reply.EndsWithResponse := by decide +kernel
  have leads : Network.LeadsToOrigins network := Network.loopback_leadsToOrigins 5001
  have used : ((steps.take 3).map fun step => step.received.length).sum = 2 := by decide +kernel
  have apart := (uploads_through_one_client_are_apart (fun _ _ => true) .noticing network settings
    uploads replies ends).2 3 surroundings whole rfl
  dsimp only at apart
  rw [used] at apart
  exact ⟨ends, leads, by decide +kernel, by decide +kernel, apart.1, apart.2 leads⟩

/-- Octets behind a response are taken for the next one where a client keeps their connection. -/
example :
    let surroundings : Surroundings := ⟨⟨0, 0, by decide⟩, ⟨0, 0, 0, 0⟩⟩
    let sample : Sample := { fileName := "a".toList, content := [0x4D] }
    let twice : Reply := { keptReply with raw := keptReply.raw ++ brokenReply.raw }
    ((Client.uploads (fun _ _ => true) (Network.loopback 5001)
      { url := "http://127.0.0.1:5001/submit".toList }
      [(surroundings, sample), (surroundings, sample)]
      { script := { replies := [twice, keptReply] } }).map UploadStep.ending).getLast? =
        some (.answered ⟨200, "OKHTTP/1.".toList⟩) := by
  decide +kernel

end UploadProbe
