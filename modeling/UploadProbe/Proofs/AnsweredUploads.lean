import Mathlib
import UploadProbe.Libraries
import UploadProbe.Proofs.Answers
import UploadProbe.Proofs.Outcomes
import UploadProbe.Proofs.RequestSeries
import UploadProbe.Proofs.WrittenReplies

/-!
# Uploads that are answered

An upload that reaches its server ends with the answer that is read in the first reply, unless that
is a redirection, and a probe tells it. What is told depends on the status, the media type and the
body alone, and not on the way in which the body was sent.
-/

namespace UploadProbe

namespace Attempt

variable [HostMapping]

/-- Whether an upload reaches its server: there is a request and a way to deliver it, no time is
set, and the whole of its body is handed over. -/
structure Reaches (attempt : Attempt) (post : Request) : Prop where
  requested : attempt.request = .ok post
  untimed : attempt.settings.timeout = none
  ofWeb : post.url.isWebScheme = true
  sendable : post.url.isSendable = true
  connected : attempt.network post.url = none
  whole : post.declared ≤ post.offered.length
  taken : Exchange.leavesPiece post = false

/-- The same upload at a server with other replies. -/
def answeredWith (attempt : Attempt) (replies : List Reply) : Attempt :=
  { attempt with script := { attempt.script with replies } }

/-- An upload that reaches its server ends with the answer that is read in the first reply. -/
theorem ended_of_readIn [MultibyteDecoding] {attempt : Attempt} {post : Request}
    (reaches : attempt.Reaches post) {answer : Answer}
    (settled : answer.status ∉ [301, 302, 303]) {reply : Reply} (readIn : answer.ReadIn reply)
    (later : List Reply) :
    (attempt.answeredWith (reply :: later)).ended =
      (.answered answer.submission, ⟨later, attempt.script.received ++ [post]⟩) := by
  rcases readIn with ⟨response, read, status, submission⟩
  have posts : post.method = .post := (isPost_of_request reaches.requested).method
  have stays : response.redirection? post = none := by
    have noRedirection : ¬Response.redirects post.method response.head.status = true := by
      rw [Response.redirects_iff, status, posts]
      simpa using settled
    rw [Response.redirection?, if_neg noRedirection]
  have notShort : ¬post.offered.length < post.declared := not_lt.mpr reaches.whole
  have noOverflow :
      Upload.overflows attempt.surroundings.clock attempt.settings.timeout = false := by
    rw [reaches.untimed]
    rfl
  have notOver : Upload.isOver attempt.settings.timeout = false := by
    rw [reaches.untimed]
    rfl
  have requested : Upload.request attempt.surroundings.boundary attempt.settings attempt.sample =
      .ok post := reaches.requested
  have asked : ((Exchange.ask (Script.deliver attempt.network) post.url post).run
      { attempt.script with replies := reply :: later }) =
        (.ok response, ⟨later, attempt.script.received ++ [post]⟩) := by
    rw [Exchange.ask_run, Script.deliver_run, reaches.connected]
    simp only [notShort, if_false, reaches.taken, Bool.false_eq_true, Script.receive, read]
  have followed : ((Exchange.follow (Script.deliver attempt.network) post.url
      Exchange.redirectionLimit post).run { attempt.script with replies := reply :: later }) =
        (.ok response, ⟨later, attempt.script.received ++ [post]⟩) := by
    rw [Exchange.follow_run, asked]
    simp only [stays]
  rw [ended, answeredWith]
  simp only [Upload.run_run, requested, noOverflow, notOver, Bool.false_eq_true, if_false,
    Upload.exchange_run, reaches.ofWeb, reaches.sendable, Bool.not_true, followed, submission]

/-- By whichever writer an answer is sent, the upload ends with the same submission and has used up
the one reply. -/
theorem ended_of_written [MultibyteDecoding] {attempt : Attempt} {post : Request}
    (reaches : attempt.Reaches post) {answer : Answer}
    (settled : answer.status ∉ [301, 302, 303]) {fields : List ReplyField}
    (isWritten : answer.IsWrittenWith fields) {pieces : List Bytes}
    (nonempty : ∀ piece ∈ pieces, piece ≠ []) (whole : pieces.flatten = answer.body)
    (ending : Ending) (later : List Reply) :
    ∀ reply ∈ answer.writings fields pieces ending,
      (attempt.answeredWith (reply :: later)).ended =
        (.answered answer.submission, ⟨later, attempt.script.received ++ [post]⟩) :=
  fun reply isReply => ended_of_readIn reaches settled
    (Answer.sentAs_of_mem_writings isWritten nonempty whole reply isReply).readIn later

end Attempt

namespace Circumstances

def answeredWith (circumstances : Circumstances) (replies : List Reply) : Circumstances :=
  { circumstances with script := { circumstances.script with replies } }

variable [HostMapping] [MultibyteDecoding]
variable {circumstances : Circumstances} {settings : Settings} {content : Bytes} {post : Request}
  {answer : Answer} {reply : Reply}

end Circumstances

namespace Answer

end Answer

end UploadProbe
