import Mathlib
import UploadProbe.Libraries
import UploadProbe.Proofs.ChunkReading
import UploadProbe.Proofs.FramingReading
import UploadProbe.Proofs.HeadReading
import UploadProbe.Proofs.Outcomes

/-!
# Replies that do not arrive completely

A reply that is cut short is never taken for an answer. Its head is not read at all, or it is read
as the head of the whole reply, and then the body ends too early for what the head tells. So an
upload that gets nothing but such replies fails, however the connection ends and however many
redirections lead from one to the next.
-/

namespace UploadProbe

namespace Reply

/-- Whether a reply is a proper beginning of one that tells where its body ends. -/
def IsTruncated (reply : Reply) : Prop :=
  ∃ whole : FramedReply, reply.raw <+: whole.octets ∧ reply.raw ≠ whole.octets

/-- Whether no upload takes a reply for its answer. -/
def NeverAnswers [MultibyteDecoding] (reply : Reply) : Prop :=
  ∀ url response, Response.ofReply url reply = .ok response →
    ∃ error, response.submission = .error error

theorem neverAnswers_exhausted [MultibyteDecoding] : NeverAnswers Script.exhausted := by
  intro url response answered
  contradiction

end Reply

namespace FramedReply

variable (reply : FramedReply)

theorem not_interim : ReplyHead.Reading.isInterim reply.head.status = false := by
  have final := reply.bodied.1
  simp [ReplyHead.Reading.isInterim]
  omega

/-- The head of a beginning of a reply is the head of the reply, if there is one. -/
theorem head_of_beginning {cut further rest : Bytes} {head : ReplyHead}
    (whole : cut ++ further = reply.octets)
    (read : ReplyHead.read cut = .complete head rest) :
    head = reply.head.read ∧ rest ++ further = reply.body := by
  have continued := scan_append ReplyHead.Reading.step ReplyHead.Reading.fresh cut further
  rw [show scan ReplyHead.Reading.step _ cut = _ from read, whole,
    show scan ReplyHead.Reading.step _ reply.octets = _ from
      HeadLines.read_heads reply.interim reply.not_interim reply.body] at continued
  split at continued
  · injection continued with sameHead sameRest
    exact ⟨sameHead.symm, sameRest.symm⟩
  · contradiction

/-- Behind the head of a reply, less than its body is not read as a body. -/
theorem readBody_of_beginning {rest further : Bytes} (whole : rest ++ further = reply.body)
    (less : further ≠ []) {framing : Framing}
    (found : Framing.ofHead reply.head.read = .ok framing) (ending : Ending) :
    ∃ error, framing.readBody rest ending = .error error := by
  rcases reply.framed with ⟨told, -⟩ | ⟨told, chunked, inChunks⟩
  · rw [Framing.ofHead_of_hasLength reply.bodied told] at found
    split at found
    · split at found
      · injection found with found
        have shorter : rest.length < reply.body.length := by
          have positive := List.length_pos_iff.mpr less
          rw [← whole, List.length_append]
          omega
        rw [← found, Framing.readBody, if_neg (by omega)]
        exact ⟨_, rfl⟩
      · contradiction
    · contradiction
  · rw [Framing.ofHead_of_isChunked reply.bodied told] at found
    injection found with found
    rw [← found, Framing.readBody]
    cases read : Chunked.read rest with
    | partway reading => exact ⟨_, rfl⟩
    | refused error => exact ⟨_, rfl⟩
    | complete data left =>
        exfalso
        have continued := scan_append Chunked.Reading.step Chunked.Reading.fresh rest further
        rw [show scan Chunked.Reading.step _ rest = _ from read, whole, inChunks] at continued
        have ends := Chunked.read_octets chunked []
        rw [List.append_nil, Chunked.read, continued] at ends
        rcases ends with ⟨error, refused⟩ | complete
        · contradiction
        · injection complete with _ none
          exact less (List.append_eq_nil_iff.mp none).2

end FramedReply

namespace Reply

theorem IsTruncated.neverAnswers [MultibyteDecoding] {reply : Reply}
    (truncated : reply.IsTruncated) :
    reply.NeverAnswers := by
  rcases truncated with ⟨whole, ⟨further, split⟩, proper⟩
  have less : further ≠ [] := by
    rintro rfl
    exact proper (by rw [← split, List.append_nil])
  intro url response answered
  rw [Response.ofReply] at answered
  cases read : ReplyHead.read reply.raw with
  | partway reading =>
      rw [read] at answered
      cases ending : reply.ending <;> simp [ending] at answered
  | refused error => simp [read] at answered
  | complete head rest =>
      rcases whole.head_of_beginning split read with ⟨rfl, body⟩
      simp only [read] at answered
      cases found : Framing.ofHead whole.head.read with
      | error error => simp [found] at answered
      | ok framing =>
          simp only [found, Except.ok.injEq] at answered
          rcases whole.readBody_of_beginning body less found reply.ending with ⟨error, unread⟩
          rw [← answered, Response.submission]
          simp only [unread]
          exact ⟨_, rfl⟩

end Reply

namespace Script

/-- Whether no reply that a server still has, or gives when it has none, is an answer. -/
def NeverAnswers [MultibyteDecoding] (script : Script) : Prop :=
  ∀ reply ∈ script.replies, reply.NeverAnswers

theorem NeverAnswers.receive [MultibyteDecoding] {script : Script} (never : script.NeverAnswers)
    (request : Request) :
    (script.receive request).1.NeverAnswers ∧ (script.receive request).2.NeverAnswers := by
  rcases script with ⟨replies, received⟩
  cases replies with
  | nil => exact ⟨Reply.neverAnswers_exhausted, never⟩
  | cons reply replies =>
      exact ⟨never reply List.mem_cons_self,
        fun other member => never other (List.mem_cons_of_mem reply member)⟩

end Script

/-- Whatever the requests and the redirections between them, an exchange with a server that never
answers ends without a body. -/
theorem Exchange.follow_of_neverAnswers [HostMapping] [MultibyteDecoding] (network : Network)
    (url : Url) (redirections : Nat) (request : Request) {script : Script}
    (never : script.NeverAnswers) {response : Response}
    (answered : ((follow (Script.deliver network) url redirections request).run script).1 =
      .ok response) : ∃ error, response.submission = .error error := by
  induction redirections using Nat.strong_induction_on generalizing request script with
  | h redirections inductionHypothesis =>
      rcases never.receive request with ⟨neverNow, neverThen⟩
      rcases follow_cases network url redirections request script with
        ⟨error, ended⟩ | ⟨error, ended⟩ | ⟨found, read, ended⟩ | ⟨fewer, next, rfl, goesOn⟩
      · rw [ended] at answered
        contradiction
      · rw [ended] at answered
        contradiction
      · rw [ended] at answered
        injection answered with same
        exact same ▸ neverNow url found read
      · rw [goesOn] at answered
        exact inductionHypothesis fewer (Nat.lt_succ_self fewer) (request.redirected next)
          neverThen answered

namespace Upload

variable [HostMapping] [MultibyteDecoding]

theorem exchange_of_neverAnswers (network : Network) (request : Request) {script : Script}
    (never : script.NeverAnswers) :
    ∃ error, ((exchange (Script.deliver network) request).run script).1 = .error error := by
  rw [exchange_run]
  split
  · exact ⟨_, rfl⟩
  split
  · exact ⟨_, rfl⟩
  have unread := @Exchange.follow_of_neverAnswers _ _ network request.url
    Exchange.redirectionLimit request script never
  rcases ended : (Exchange.follow (Script.deliver network) request.url
    Exchange.redirectionLimit request).run script with ⟨followed, left⟩
  rw [ended] at unread
  cases followed with
  | error error => exact ⟨error, rfl⟩
  | ok response => exact unread rfl

/-- An upload to a server that never answers fails, unless the clock ends the program before
anything is sent. -/
theorem run_of_neverAnswers (network : Network) (surroundings : Surroundings)
    (settings : Settings) (sample : Sample) {script : Script} (never : script.NeverAnswers) :
    (∃ error, ((run (Script.deliver network) surroundings settings sample).run script).1 =
        .failed error) ∨
      ((run (Script.deliver network) surroundings settings sample).run script =
          (.clockOverflow, script) ∧
        overflows surroundings.clock settings.timeout = true) := by
  rw [run_run]
  cases request surroundings.boundary settings sample with
  | error error => exact Or.inl ⟨error, rfl⟩
  | ok request =>
      dsimp only
      split
      · rename_i overflow
        exact Or.inr ⟨rfl, overflow⟩
      split
      · exact Or.inl ⟨_, rfl⟩
      rcases exchange_of_neverAnswers network request never with ⟨error, failed⟩
      rcases ended : (exchange (Script.deliver network) request).run script with
        ⟨exchanged, left⟩
      rw [ended] at failed
      dsimp only at failed
      rw [failed]
      exact Or.inl ⟨error, rfl⟩

end Upload

/-- A probe whose server sends nothing but proper beginnings of replies, and closes the connection
or leaves it open behind each, announces its upload and says how it failed: it never tells a status
or a text. Only if the clock cannot show the end of the timeout, nothing is sent at all, and the
program ends behind the announcement. -/
theorem truncated_replies_are_failures [HostMapping] [MultibyteDecoding]
    (circumstances : Circumstances) (settings : Settings) (sink : Sink) (ready : sink.Ready)
    (takesAll : sink.TakesAll)
    (truncated : ∀ reply ∈ circumstances.script.replies, reply.IsTruncated) {content : Bytes}
    (opened : circumstances.opened settings = .ok content) :
    let run := circumstances.run settings sink
    let uploaded := circumstances.uploaded settings content
    (∃ error, uploaded.1 = .failed error ∧
        run.sink.written = (ProbeOutcome.failed (describe error.causes)).output settings) ∨
      (uploaded = (.clockOverflow, circumstances.script) ∧ ¬circumstances.InTime settings ∧
        run.sink.written = Probe.announcement settings) := by
  intro run uploaded
  have never : circumstances.script.NeverAnswers :=
    fun reply member => (truncated reply member).neverAnswers
  rcases Circumstances.run_opened opened takesAll with ⟨-, written, -⟩
  rw [ready.written, List.nil_append] at written
  rcases Upload.run_of_neverAnswers circumstances.network circumstances.surroundings settings
    (Probe.sample settings content) never with ⟨error, failed⟩ | ⟨stopped, overflow⟩
  · left
    have ended : uploaded.1 = .failed error := failed
    have outcome : ProbeOutcome.Holds circumstances settings (.failed (describe error.causes)) :=
      ⟨content, error, opened, ended, rfl⟩
    exact ⟨error, ended, (ProbeOutcome.run_of_holds ready takesAll outcome).2.2.1⟩
  · right
    have ended : uploaded = (.clockOverflow, circumstances.script) := stopped
    refine ⟨ended, ?_, ?_⟩
    · rw [Circumstances.InTime, overflow]
      simp
    · rw [show run.sink.written = _ from written,
        show circumstances.uploaded settings content = _ from ended]
      exact List.append_nil _

namespace FramedReply

def chunkedHead : HeadLines where
  status := 200
  reason := some (Bytes.ofAscii "OK".toList)
  lines := [⟨Bytes.ofAscii "Transfer-Encoding".toList, Bytes.ofAscii " chunked".toList,
    by decide +kernel, by decide +kernel, by decide +kernel⟩]
  least := by norm_num
  greatest := by norm_num
  reasonBytes := by decide +kernel

def singleChunk : ChunkedBody where
  chunks := [⟨⟨[0x32], [], by decide +kernel, by decide +kernel, Or.inl rfl, by simp⟩,
    [0x4F, 0x4B], by decide +kernel, rfl⟩]
  last := ⟨[0x30], [], by decide +kernel, by decide +kernel, Or.inl rfl, by simp⟩
  empty := rfl
  trailers := []

def inOneChunk : FramedReply where
  interims := []
  head := chunkedHead
  body := singleChunk.octets
  interim := by simp
  bodied := ⟨by decide, by decide, by decide⟩
  framed := Or.inr ⟨⟨[], [], Framing.chunkedCoding, by decide +kernel, by decide +kernel, rfl,
    Or.inl rfl⟩, singleChunk, rfl⟩

end FramedReply

/-- A reply of which all data have arrived, but not the last line, is a failure. -/
theorem reply_without_last_line_is_failure :
    let circumstances := Circumstances.withReply
      ⟨Bytes.ofAscii "HTTP/1.1 200 OK\r\nTransfer-Encoding: chunked\r\n\r\n2\r\nOK\r\n0\r\n".toList,
        .closes⟩
    let settings := Circumstances.localSettings
    (({} : Sink).Ready ∧ ({} : Sink).TakesAll ∧
        (∀ reply ∈ circumstances.script.replies, reply.IsTruncated) ∧
        circumstances.opened settings = .ok [0x4D, 0x5A]) ∧
      ∃ error, (circumstances.uploaded settings [0x4D, 0x5A]).1 = .failed error ∧
        (circumstances.run settings {}).sink.written =
          (ProbeOutcome.failed (describe error.causes)).output settings := by
  intro circumstances settings
  have truncated : ∀ reply ∈ circumstances.script.replies, reply.IsTruncated := by
    intro reply member
    rw [List.mem_singleton.mp member]
    exact ⟨FramedReply.inOneChunk, ⟨ReplyWriting.lineEnd, by decide +kernel⟩, by decide +kernel⟩
  have opened : circumstances.opened settings = .ok [0x4D, 0x5A] := by decide +kernel
  refine ⟨⟨Sink.ready_empty, Sink.takesAll_empty, truncated, opened⟩, ?_⟩
  rcases truncated_replies_are_failures circumstances settings {} Sink.ready_empty
    Sink.takesAll_empty truncated opened with failure | ⟨-, late, -⟩
  · exact failure
  · exact absurd rfl late

end UploadProbe
