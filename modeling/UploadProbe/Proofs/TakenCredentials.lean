import Mathlib
import UploadProbe.Libraries
import UploadProbe.Proofs.ArrivingRequests
import UploadProbe.Proofs.RequestHeads
import UploadProbe.Proofs.UrlUserinfo

/-!
# What becomes of credentials

A user name and a password in the configured URL become an authorization, and nothing else in the
requests of an upload depends on them. Two uploads, one of which does without them, are followed
request by request: they ask the same server for the same, redirection after redirection.
-/

namespace UploadProbe

open Text

/-- Whether the way to a server does not depend on user names and passwords. -/
def Network.IgnoresUserinfo (network : Network) : Prop :=
  ∀ url : Url, network url.withoutUserinfo = network url

/-- A server on the same machine is reached whoever the user is. -/
theorem Network.ignoresUserinfo_loopback (port : Nat) : IgnoresUserinfo (loopback port) := by
  rintro ⟨scheme, authority, path, query, fragment⟩
  cases authority <;> rfl

namespace Request

/-- Whether two requests ask for the same, and differ at most in what has become of a user name and
a password: what is left of the URL, and the authorization. -/
structure AsksAlike (request plain : Request) : Prop where
  method : plain.method = request.method
  url : plain.url.IsWhatIsLeft request.url
  offered : plain.offered = request.offered
  declared : plain.declared = request.declared
  distinct : request.headers.names.Nodup
  plainDistinct : plain.headers.names.Nodup
  headers : ∀ header : Header, header.name ≠ HeaderName.authorization.text →
    (header ∈ plain.headers ↔ header ∈ request.headers)

variable {request plain : Request}

theorem AsksAlike.symm (alike : request.AsksAlike plain) (same : plain.url = request.url) :
    plain.AsksAlike request where
  method := alike.method.symm
  url := Or.inl same.symm
  offered := alike.offered.symm
  declared := alike.declared.symm
  distinct := alike.plainDistinct
  plainDistinct := alike.distinct
  headers header other := (alike.headers header other).symm

theorem AsksAlike.hostText (alike : request.AsksAlike plain) :
    Request.hostText plain.url = Request.hostText request.url := by
  rcases alike.url with same | without
  · rw [same]
  · rw [without, Request.hostText, Request.hostText, Url.withoutUserinfo]
    cases request.url.authority <;> rfl

theorem AsksAlike.target (alike : request.AsksAlike plain) :
    plain.url.target = request.url.target := by
  rcases alike.url with same | without
  · rw [same]
  · rw [without]
    rfl

theorem refererFrom?_of_isWhatIsLeft {previous plainPrevious next plainNext : Url}
    (previousLeft : plainPrevious.IsWhatIsLeft previous) (nextLeft : plainNext.IsWhatIsLeft next) :
    refererFrom? plainPrevious plainNext = refererFrom? previous next := by
  have scheme {url plain : Url} (left : plain.IsWhatIsLeft url) : plain.scheme = url.scheme := by
    rcases left with rfl | rfl <;> rfl
  have withoutAgain : plainPrevious.withoutUserinfo = previous.withoutUserinfo := by
    rcases previousLeft with rfl | rfl
    · rfl
    · simp [Url.withoutUserinfo, Function.comp_def]
  rw [refererFrom?, refererFrom?, scheme previousLeft, scheme nextLeft, withoutAgain]

/-- Requests that ask alike do so behind redirections that lead to the same. -/
theorem AsksAlike.redirected (alike : request.AsksAlike plain) {next plainNext : Url}
    (left : plainNext.IsWhatIsLeft next) :
    (request.redirected next).AsksAlike (plain.redirected plainNext) where
  method := rfl
  url := left
  offered := rfl
  declared := rfl
  distinct := (isBare_redirected alike.distinct next).2
  plainDistinct := (isBare_redirected alike.plainDistinct plainNext).2
  headers := by
    intro header other
    have kept : plain.IsKept plainNext header ↔ request.IsKept next header := by
      rw [IsKept, IsKept, alike.headers header other, refererFrom?_of_isWhatIsLeft alike.url left]
    rw [mem_redirected_iff alike.distinct, mem_redirected_iff alike.plainDistinct, kept,
      refererFrom?_of_isWhatIsLeft alike.url left]
    simp [other]

end Request

namespace Exchange

variable {network : Network} {request plain : Request}

/-- Whether to each of some requests there is another one at the same place that asks alike. -/
def Accompanies (plainSent sent : List Request) : Prop :=
  ∀ (place : Nat) (request : Request), sent[place]? = some request →
    ∃ plain, plainSent[place]? = some plain ∧ request.AsksAlike plain

theorem accompanies_nil (plainSent : List Request) : Accompanies plainSent [] := by
  intro place request asked
  simp at asked

theorem Accompanies.cons {plainSent sent : List Request} (accompanies : Accompanies plainSent sent)
    (alike : request.AsksAlike plain) : Accompanies (plain :: plainSent) (request :: sent) := by
  intro place asking asked
  cases place with
  | zero =>
      rw [List.getElem?_cons_zero, Option.some_inj] at asked
      rw [← asked]
      exact ⟨plain, rfl, alike⟩
  | succ place => exact accompanies place asking asked

theorem Accompanies.length_le {plainSent sent : List Request}
    (accompanies : Accompanies plainSent sent) : sent.length ≤ plainSent.length := by
  by_contra more
  have inside : plainSent.length < sent.length := by omega
  rcases accompanies _ _ (List.getElem?_eq_getElem inside) with ⟨plain, asked, -⟩
  simp at asked

theorem arrives_of_alike (ignores : network.IgnoresUserinfo) (alike : request.AsksAlike plain) :
    arrives network plain = arrives network request := by
  have connected : network plain.url = network request.url := by
    rcases alike.url with same | without
    · rw [same]
    · rw [without, ignores]
  rw [arrives, arrives, connected, alike.offered, alike.declared]

variable [HostMapping]

/-- What one request is redirected to, the other one is redirected to as well. -/
theorem redirection?_of_alike (alike : request.AsksAlike plain) {response : Response} {next : Url}
    (leads : response.redirection? request = some next) :
    ∃ plainNext : Url, response.redirection? plain = some plainNext ∧
      plainNext.IsWhatIsLeft next := by
  rcases Response.redirection?_eq_some_iff.mp leads with
    ⟨status, ⟨location, reference, first, decoded, resolved⟩, sendable⟩
  have resolvedAlike := Url.resolve_alike alike.url reference
  rw [resolved] at resolvedAlike
  generalize plainResolved : plain.url.resolve reference = plainRead at resolvedAlike
  cases resolvedAlike with
  | @ok _ plainNext left =>
      refine ⟨plainNext, Response.redirection?_eq_some_iff.mpr ?_, left⟩
      exact ⟨by rwa [alike.method], ⟨location, reference, first, decoded, plainResolved⟩,
        left.isSendable sendable⟩

theorem followed?_of_alike (alike : request.AsksAlike plain) {reply : Reply} {next : Url}
    (follows : followed? request reply = some next) :
    ∃ plainNext : Url, followed? plain reply = some plainNext ∧ plainNext.IsWhatIsLeft next := by
  have sameAnswer : answer request.url plain reply = answer request.url request reply := by
    rw [answer, answer, leavesPiece, leavesPiece, alike.offered, alike.declared]
  rw [followed?_eq request.url, sameAnswer]
  unfold followed? at follows
  cases read : answer request.url request reply with
  | error error => simp [read] at follows
  | ok response =>
      simp only [read, Option.filter_eq_some_iff] at follows ⊢
      rcases redirection?_of_alike alike follows.1 with ⟨plainNext, leads, left⟩
      refine ⟨plainNext, ⟨leads, ?_⟩, left⟩
      rcases left with rfl | rfl
      · exact follows.2
      · exact follows.2

/-- The series of two requests that ask alike are the same request by request, as long as the one
goes on whose URL is the longer one. -/
theorem series_accompanied (ignores : network.IgnoresUserinfo) (redirections : Nat)
    (alike : request.AsksAlike plain) (replies : List Reply) :
    Accompanies (series network redirections plain replies)
      (series network redirections request replies) := by
  induction redirections generalizing request plain replies with
  | zero =>
      rw [series, series, arrives_of_alike ignores alike]
      split
      · exact (accompanies_nil []).cons alike
      · exact accompanies_nil _
  | succ redirections inductionHypothesis =>
      rw [series, series, arrives_of_alike ignores alike]
      split
      · refine Accompanies.cons ?_ alike
        cases follows : followed? request (replies.headD Script.exhausted) with
        | none => exact accompanies_nil _
        | some next =>
            rcases followed?_of_alike alike follows with ⟨plainNext, plainFollows, left⟩
            rw [plainFollows]
            exact inductionHypothesis (alike.redirected left) (replies.drop 1)
      · exact accompanies_nil _

end Exchange

namespace Request

/-- Nothing is taken out of a URL that has nothing. -/
theorem takeCredentials_withoutUserinfo (url : Url) :
    takeCredentials url.withoutUserinfo = (url.withoutUserinfo, none) := by
  rcases url with ⟨scheme, authority, path, query, fragment⟩
  cases authority with
  | none => rfl
  | some authority => simp [takeCredentials, Url.withoutUserinfo, Percent.decode]

/-- The requests that post a form to a URL and to what is left of it ask alike. -/
theorem asksAlike_postForm (url : Url) (boundary : Boundary) (part : FormPart) (data : Bytes)
    (length : Nat) :
    (postForm (takeCredentials url).1 (takeCredentials url).2 boundary part data length).AsksAlike
      (postForm url.withoutUserinfo none boundary part data length) where
  method := rfl
  url := by
    rcases takeCredentials_url url with same | without
    · exact Or.inr (congrArg Url.withoutUserinfo same.symm)
    · exact Or.inl without.symm
  offered := rfl
  declared := rfl
  distinct := nodup_postForm ..
  plainDistinct := nodup_postForm ..
  headers := by
    intro header other
    cases taken : (takeCredentials url).2 with
    | none => exact Iff.rfl
    | some value =>
        have differs : header ≠ ⟨HeaderName.authorization.text, value⟩ := by
          rintro rfl
          exact other rfl
        simp [postForm, formHeaders, differs]

end Request

namespace Attempt

/-- The same upload to the configured URL without its user name and its password. -/
def withoutUserinfo (attempt : Attempt) : Attempt :=
  { attempt with
    settings := { attempt.settings with url := Url.removeUserinfo attempt.settings.url } }

variable {attempt : Attempt}

theorem sends_of_alike {post plain : Request} (alike : post.AsksAlike plain)
    (isSent : attempt.sends post = true) : attempt.withoutUserinfo.sends plain = true := by
  simp only [sends, Bool.and_eq_true] at isSent ⊢
  rcases alike.url with same | without
  · rw [same]
    exact isSent
  · refine ⟨isSent.1, ?_, alike.url.isSendable isSent.2.2⟩
    rw [without]
    exact isSent.2.1

variable [HostMapping]

/-- The request of an upload to a usable URL, and that of the upload without credentials. -/
theorem requests_alike {post : Request} (requested : attempt.request = .ok post)
    (usable : attempt.settings.HasUsableUrl) :
    ∃ url plain, Url.read attempt.settings.url = .ok url ∧
      attempt.withoutUserinfo.request = .ok plain ∧ post.AsksAlike plain ∧
      post.url = (Request.takeCredentials url).1 ∧ plain.url = url.withoutUserinfo := by
  rcases Upload.request_ok_iff.mp requested with ⟨mediaType, url, accepted, reads, hasHost, rfl⟩
  obtain ⟨same, readsSame, -, ofWeb⟩ := usable
  rw [reads, Except.ok.injEq] at readsSame
  subst readsSame
  refine ⟨url, _, reads, Upload.request_ok_iff.mpr ⟨mediaType, url.withoutUserinfo, accepted,
    Url.read_removeUserinfo reads ofWeb, by rwa [Url.hasHost_withoutUserinfo], rfl⟩, ?_, rfl, ?_⟩
  · rw [Request.takeCredentials_withoutUserinfo]
    exact Request.asksAlike_postForm ..
  · rw [Request.takeCredentials_withoutUserinfo]
    rfl

/-- An upload has a request if it has one without credentials. -/
theorem request_of_withoutUserinfo {url : Url} (reads : Url.read attempt.settings.url = .ok url)
    (ofWeb : url.isWebScheme = true) {plain : Request}
    (plainRequested : attempt.withoutUserinfo.request = .ok plain) :
    ∃ post, attempt.request = .ok post := by
  rcases Upload.request_ok_iff.mp plainRequested with
    ⟨mediaType, _, accepted, plainReads, hasHost, -⟩
  have plainReads : Url.read (Url.removeUserinfo attempt.settings.url) = _ := plainReads
  rw [Url.read_removeUserinfo reads ofWeb, Except.ok.injEq] at plainReads
  rw [← plainReads, Url.hasHost_withoutUserinfo] at hasHost
  exact ⟨_, Upload.request_ok_iff.mpr ⟨mediaType, url, accepted, reads, hasHost, rfl⟩⟩

variable [MultibyteDecoding]

/-- To each request of an upload, the upload without credentials has one at the same place that asks
for the same. -/
theorem sent_accompanied (ignores : attempt.network.IgnoresUserinfo) :
    Exchange.Accompanies attempt.withoutUserinfo.sent attempt.sent := by
  by_cases nothing : attempt.sent = []
  · rw [nothing]
    exact Exchange.accompanies_nil _
  rcases attempt.sent_cases with none | ⟨post, requested, -⟩
  · contradiction
  rcases requests_alike requested (hasUsableUrl_of_sent requested nothing) with
    ⟨url, plain, -, plainRequested, alike, -⟩
  rw [sent_eq requested] at nothing ⊢
  rw [sent_eq plainRequested]
  split at nothing
  · next isSent =>
    rw [if_pos isSent, if_pos (sends_of_alike alike isSent)]
    exact Exchange.series_accompanied ignores _ alike _
  · contradiction

/-- Where nothing of a user name and a password stays in the URL, both uploads send as much. -/
theorem length_sent_withoutUserinfo (ignores : attempt.network.IgnoresUserinfo) {url : Url}
    (reads : Url.read attempt.settings.url = .ok url) (ofWeb : url.isWebScheme = true)
    (taken : (Request.takeCredentials url).1 = url.withoutUserinfo) :
    attempt.withoutUserinfo.sent.length = attempt.sent.length := by
  cases requested : attempt.request with
  | error error =>
      cases plainRequested : attempt.withoutUserinfo.request with
      | error plainError => rw [sent_of_error requested, sent_of_error plainRequested]
      | ok plain =>
          rcases request_of_withoutUserinfo reads ofWeb plainRequested with ⟨post, isOk⟩
          rw [requested] at isOk
          contradiction
  | ok post =>
      have usable : attempt.settings.HasUsableUrl := by
        rcases Upload.request_ok_iff.mp requested with ⟨_, found, -, readsFound, hasHost, -⟩
        rw [reads, Except.ok.injEq] at readsFound
        exact ⟨url, reads, readsFound ▸ hasHost, ofWeb⟩
      rcases requests_alike requested usable with
        ⟨found, plain, readsFound, plainRequested, alike, postUrl, plainUrl⟩
      rw [reads, Except.ok.injEq] at readsFound
      have same : plain.url = post.url := by rw [plainUrl, postUrl, ← readsFound, taken]
      have sendsSame : attempt.withoutUserinfo.sends plain = attempt.sends post := by
        rw [sends, sends, same]
        rfl
      rw [sent_eq requested, sent_eq plainRequested, sendsSame]
      split
      · have forth := Exchange.series_accompanied ignores Exchange.redirectionLimit alike
          attempt.script.replies
        have back := Exchange.series_accompanied ignores Exchange.redirectionLimit (alike.symm same)
          attempt.script.replies
        exact le_antisymm back.length_le forth.length_le
      · rfl

end Attempt

namespace Request

variable {request plain : Request}

theorem IsOrderly.takeWhile_line (orderly : request.IsOrderly) {header : Header}
    (member : header ∈ request.headers) : header.line.takeWhile (· ≠ ':') = header.name := by
  rcases orderly.known _ (Headers.mem_names member) with ⟨known, -, same⟩
  exact Header.takeWhile_line (same ▸ known.colon_notMem_text)

/-- The lines of a head but the one for the authorization. -/
theorem IsOrderly.mem_head_iff (orderly : request.IsOrderly) {line : Text}
    (other : line.takeWhile (· ≠ ':') ≠ HeaderName.authorization.text) :
    line ∈ request.head ↔
      line = request.method.text ++ ' ' :: request.url.target ++ " HTTP/1.1".toList ∨
        (∃ header, header.name ≠ HeaderName.authorization.text ∧ header ∈ request.headers ∧
          header.line = line) ∨
        line = Header.line ⟨HeaderName.host.text, hostText request.url⟩ := by
  have fields : (∃ header ∈ request.headers, header.line = line) ↔
      ∃ header, header.name ≠ HeaderName.authorization.text ∧ header ∈ request.headers ∧
        header.line = line := by
    constructor
    · rintro ⟨header, member, rfl⟩
      rw [orderly.takeWhile_line member] at other
      exact ⟨header, other, member, rfl⟩
    · rintro ⟨header, -, member, same⟩
      exact ⟨header, member, same⟩
  rw [head, List.mem_cons, List.mem_append, List.mem_map, List.mem_singleton, fields]

theorem AsksAlike.head?_head (alike : request.AsksAlike plain) :
    plain.head.head? = request.head.head? := by
  rw [head, head, List.head?_cons, List.head?_cons, alike.method, alike.target]

theorem AsksAlike.mem_head_iff (alike : request.AsksAlike plain) (orderly : request.IsOrderly)
    (plainOrderly : plain.IsOrderly) {line : Text}
    (other : line.takeWhile (· ≠ ':') ≠ HeaderName.authorization.text) :
    line ∈ plain.head ↔ line ∈ request.head := by
  have fields : (∃ header, header.name ≠ HeaderName.authorization.text ∧ header ∈ plain.headers ∧
      header.line = line) ↔ ∃ header, header.name ≠ HeaderName.authorization.text ∧
        header ∈ request.headers ∧ header.line = line := by
    refine exists_congr fun header => and_congr_right fun differs => ?_
    rw [alike.headers header differs]
  rw [orderly.mem_head_iff other, plainOrderly.mem_head_iff other, alike.method, alike.target,
    alike.hostText, fields]

end Request

namespace Attempt

/-- What holds of the heads that an upload sends, whatever its settings and the replies are. -/
structure SendsSoundHeads [HostMapping] [MultibyteDecoding] (attempt : Attempt) : Prop where
  heads : ∀ (place : Nat) (request : Request), attempt.sent[place]? = some request →
    attempt.SendsHead place request.head
  /-- The upload without credentials asks for the configured URL without them. -/
  plain : ∀ url, Url.read attempt.settings.url = .ok url → url.isWebScheme = true →
    Url.read attempt.withoutUserinfo.settings.url = .ok url.withoutUserinfo
  /-- Its heads have the same first line and, but for the authorization, the same others. -/
  lines : attempt.network.IgnoresUserinfo →
    ∀ (place : Nat) (request : Request), attempt.sent[place]? = some request →
      ∃ plain : Request, attempt.withoutUserinfo.sent[place]? = some plain ∧
        plain.head.head? = request.head.head? ∧
        ∀ line : Text, line.takeWhile (· ≠ ':') ≠ HeaderName.authorization.text →
          (line ∈ plain.head ↔ line ∈ request.head)
  /-- It sends as many, if nothing of a user name and a password stays in the URL of the other one,
  which may become too long for a request by what does. -/
  number : attempt.network.IgnoresUserinfo →
    ∀ url, Url.read attempt.settings.url = .ok url → url.isWebScheme = true →
      (Request.takeCredentials url).1 = url.withoutUserinfo →
      attempt.withoutUserinfo.sent.length = attempt.sent.length

theorem sendsSoundHeads [HostMapping] [MultibyteDecoding] (attempt : Attempt) :
    attempt.SendsSoundHeads where
  heads _ _ := sendsHead_of_sent
  plain _ := Url.read_removeUserinfo
  lines ignores place request asked := by
    rcases sent_accompanied ignores place request asked with ⟨plain, plainAsked, alike⟩
    have orderly := (asksOrderly_of_sent asked).orderly
    have plainOrderly := (asksOrderly_of_sent plainAsked).orderly
    exact ⟨plain, plainAsked, alike.head?_head, fun line => alike.mem_head_iff orderly plainOrderly⟩
  number ignores _ := length_sent_withoutUserinfo ignores

/-- What a probe adds to what its server has received is what its upload sends. -/
theorem sent_of_received [HostMapping] [MultibyteDecoding] {circumstances : Circumstances}
    {settings : Settings} {sink : Sink} {place : Nat} {request : Request}
    (asked : ((circumstances.run settings sink).script.received.drop
      circumstances.script.received.length)[place]? = some request) :
    ∃ content, circumstances.opened settings = .ok content ∧
      (ofProbe circumstances settings content).sent[place]? = some request := by
  rcases received_run circumstances settings sink with ⟨sent, received, cases⟩
  rw [received, List.drop_left] at asked
  rcases cases with rfl | ⟨content, opened, rfl⟩
  · simp at asked
  · exact ⟨content, opened, asked⟩

/-- Neither the settings of an upload nor what its server answers gets into the heads of its
requests anywhere but where it belongs: each head is whole and tells nothing that the client does
not mean to. A user name and a password in the URL are told in the authorization only: without them,
the requests are the same but for it. What a probe sends is what its upload sends. -/
theorem heads_are_sound [HostMapping] [MultibyteDecoding] :
    (∀ attempt : Attempt, attempt.SendsSoundHeads) ∧
      ∀ (circumstances : Circumstances) (settings : Settings) (sink : Sink) (place : Nat)
        (request : Request),
        ((circumstances.run settings sink).script.received.drop
          circumstances.script.received.length)[place]? = some request →
        ∃ content, circumstances.opened settings = .ok content ∧
          (ofProbe circumstances settings content).sent[place]? = some request :=
  ⟨sendsSoundHeads, fun _ _ _ _ _ => sent_of_received⟩

/-- With ends of lines in the settings, an at sign in the password, and a blank and a tab in a
location, the request that follows the redirection has a whole head, and without the user name and
the password it has the same one but for the authorization. -/
theorem redirected_head_is_sound :
    let found : Reply :=
      ⟨Bytes.ofAscii
        "HTTP/1.1 302 Found\r\nlocation: /a b\t?x y#z\r\ncontent-length: 0\r\n\r\n".toList,
        .staysOpen⟩
    let circumstances := { Circumstances.withReply found with
      script := { replies := [found, found] } }
    let settings := { Circumstances.localSettings with
      url := "http://me\r\n:a@b@127.0.0.1:41357/s t\n#up".toList, field := "a\r\nb".toList }
    let attempt := ofProbe circumstances settings [0x4D, 0x5A]
    let lines := ["GET /a%20b?x%20y HTTP/1.1".toList, "authorization: Basic bWU6YUBi".toList,
      "accept: */*".toList, "referer: http://127.0.0.1:41357/s%20t".toList,
      "host: 127.0.0.1:41357".toList]
    (attempt.network.IgnoresUserinfo ∧ attempt.sent[1]?.map Request.head = some lines) ∧
      attempt.SendsHead 1 lines ∧
      ∃ plain : Request, attempt.withoutUserinfo.sent[1]? = some plain ∧
        plain.head.head? = lines.head? ∧
        ∀ line : Text, line.takeWhile (· ≠ ':') ≠ HeaderName.authorization.text →
          (line ∈ plain.head ↔ line ∈ lines) := by
  intro found circumstances settings attempt lines
  have ignores : attempt.network.IgnoresUserinfo := Network.ignoresUserinfo_loopback 41357
  have told : attempt.sent[1]?.map Request.head = some lines := by decide +kernel
  obtain ⟨request, asked, isHead⟩ := Option.map_eq_some_iff.mp told
  have sound := heads_are_sound.1 attempt
  have head := sound.heads 1 request asked
  have plain := sound.lines ignores 1 request asked
  rw [isHead] at head plain
  exact ⟨⟨ignores, told⟩, head, plain⟩

end Attempt

end UploadProbe
