import Mathlib
import UploadProbe.Libraries
import UploadProbe.Proofs.AcceptedSettings
import UploadProbe.Proofs.Descriptions
import UploadProbe.Proofs.FailureLines

/-!
# Which failure is told

A probe looks at its sample, then at its media type, then at its URL, and tells the first failure it
meets; what comes later makes no difference to it, and as long as there is one, nothing is sent.
The names of the form field and of the file are looked at nowhere: two uploads that differ in them
take the same course, request by request, and end in the same way.
-/

namespace UploadProbe

/-- Whether the URL names a machine and a scheme of the web. -/
def Settings.HasUsableUrl [HostMapping] (settings : Settings) : Prop :=
  ∃ url, Url.read settings.url = .ok url ∧ url.hasHost = true ∧ url.isWebScheme = true

namespace Url

variable [HostMapping]

/-- A plain name that is no number is the host itself, whatever the mapping makes of other names. -/
theorem readHost_of_isPlain {text : Text} (unbracketed : text.head? ≠ some '[')
    (plain : Domain.isPlain (Percent.decode text) = true) (nonempty : Percent.decode text ≠ [])
    (unnumbered : Host.endsInNumber (Text.ofAscii (Percent.decode text)) = false) :
    readHost text = .ok (.domain (Text.ofAscii (Percent.decode text))) := by
  have form := HostMapping.toAscii?_of_isPlain _ plain
  have named : (Text.ofAscii (Percent.decode text)).isEmpty = false := by
    simpa [Text.ofAscii] using nonempty
  unfold readHost
  split
  · simp at unbracketed
  · simp only [form, named, unnumbered, Bool.false_eq_true, if_false]

theorem readAuthority_of_standard :
    readAuthority "http".toList "localhost:5001".toList false =
      .ok { host := .domain "localhost".toList, port := some 5001 } := by
  have host : readHost "localhost".toList = .ok (.domain "localhost".toList) :=
    readHost_of_isPlain (by decide) (by decide) (by decide) (by decide)
  have server : readHostAndPort "http".toList "localhost:5001".toList =
      .ok (.domain "localhost".toList, some 5001) := by
    unfold readHostAndPort
    rw [show cutHost false "localhost:5001".toList = ("localhost".toList, ":5001".toList) by decide]
    dsimp only
    rw [host]
    rfl
  unfold readAuthority
  rw [show cutAtLastAt "localhost:5001".toList = none by decide]
  dsimp only
  rw [server]
  rfl

end Url

/-- The URL that stands in for none is usable under every mapping. -/
theorem Settings.hasUsableUrl_standard [HostMapping] : ({} : Settings).HasUsableUrl := by
  have reads : Url.read ({} : Settings).url =
      (Url.readAuthority "http".toList "localhost:5001".toList false).bind fun authority =>
        .ok (Url.withTail "http".toList (some authority) (.segments ["submit".toList]) none none) :=
    rfl
  rw [HasUsableUrl, reads, Url.readAuthority_of_standard]
  exact ⟨_, rfl, by decide, by decide⟩

namespace Upload

variable {network : Network} {surroundings : Surroundings} {settings : Settings} {sample : Sample}
  {script : Script}

theorem isWebScheme_takeCredentials (url : Url) :
    (Request.takeCredentials url).1.isWebScheme = url.isWebScheme := by
  rcases Request.takeCredentials_url url with same | without
  · rw [same]
  · rw [without]
    rfl

variable [HostMapping] [MultibyteDecoding]

theorem run_of_refusedMediaType {refusal : MediaTypeError}
    (refused : MediaType.read settings.mime = .error refusal) :
    (run (Script.deliver network) surroundings settings sample).run script =
      (.failed (.invalidMediaType settings.mime refusal), script) := by
  rw [run_run, request, refused]

/-- Without a usable URL an upload fails before anything is sent, unless the clock stops it. -/
theorem run_of_unusableUrl {mediaType : Bytes}
    (accepted : MediaType.read settings.mime = .ok mediaType) (unusable : ¬settings.HasUsableUrl) :
    ∃ ending, (run (Script.deliver network) surroundings settings sample).run script =
        (ending, script) ∧
      (ending = .clockOverflow ∨ ∃ error, ending = .failed error ∧
        error.purpose = "Failed to send submit request".toList) := by
  rw [run_run]
  cases requested : request surroundings.boundary settings sample with
  | error error =>
      refine ⟨_, rfl, .inr ⟨error, rfl, ?_⟩⟩
      rcases request_error_cases requested with ⟨refusal, refused, -⟩ | ⟨-, others⟩
      · rw [accepted] at refused
        cases refused
      · rcases others with ⟨refusal, -, rfl⟩ | ⟨url, -, -, rfl⟩ <;> rfl
  | ok post =>
      obtain ⟨_, url, -, reads, hasHost, rfl⟩ := request_ok_iff.mp requested
      have notWeb : (Request.takeCredentials url).1.isWebScheme = false := by
        rw [isWebScheme_takeCredentials]
        exact Bool.eq_false_iff.mpr fun isWeb => unusable ⟨url, reads, hasHost, isWeb⟩
      dsimp only
      split
      · exact ⟨_, rfl, .inl rfl⟩
      split
      · exact ⟨_, rfl, .inr ⟨_, rfl, rfl⟩⟩
      · rw [exchange_run, if_pos (by simpa [Request.postForm] using notWeb)]
        refine ⟨_, rfl, .inr ⟨_, rfl, ?_⟩⟩
        unfold Exchange.unsent
        split <;> rfl

end Upload

namespace Script

theorem receive_of_replies {script other : Script} (same : script.replies = other.replies)
    (left right : Request) :
    (script.receive left).1 = (other.receive right).1 ∧
      (script.receive left).2.replies = (other.receive right).2.replies := by
  rcases script with ⟨replies, received⟩
  rcases other with ⟨others, receivedOthers⟩
  cases same
  cases replies <;> exact ⟨rfl, rfl⟩

end Script

namespace Exchange

/-- Whether two requests go the same way, each with the whole body that it declares. -/
structure GoAlike (left right : Request) : Prop where
  method : left.method = right.method
  url : left.url = right.url
  leftWhole : left.offered.length = left.declared
  rightWhole : right.offered.length = right.declared

/-- Whether two steps of an exchange both fail or come to the same, and leave the same replies. -/
inductive ComeToSame {α : Type} :
    Except UploadError α × Script → Except UploadError α × Script → Prop
  | failed {left right : UploadError} {script other : Script}
      (same : script.replies = other.replies) :
      ComeToSame (.error left, script) (.error right, other)
  | given (value : α) {script other : Script} (same : script.replies = other.replies) :
      ComeToSame (.ok value, script) (.ok value, other)

theorem goAlike_redirected (left right : Request) (next : Url) :
    GoAlike (left.redirected next) (right.redirected next) :=
  ⟨rfl, rfl, rfl, rfl⟩

theorem GoAlike.redirection? [HostMapping] {left right : Request} (alike : GoAlike left right)
    (response : Response) : response.redirection? left = response.redirection? right := by
  simp only [Response.redirection?, alike.method, alike.url]

variable {network : Network} {url : Url} {left right : Request} {script other : Script}

theorem ask_comesToSame (alike : GoAlike left right) (same : script.replies = other.replies) :
    ComeToSame ((ask (Script.deliver network) url left).run script)
      ((ask (Script.deliver network) url right).run other) := by
  rw [ask_run, ask_run, Script.deliver_run, Script.deliver_run, alike.url]
  cases network right.url with
  | some error => exact .failed same
  | none =>
      have received := Script.receive_of_replies same left right
      dsimp only
      rw [if_neg (by simp [alike.leftWhole]), if_neg (by simp [alike.rightWhole])]
      dsimp only
      rw [leavesPiece_of_whole alike.leftWhole, leavesPiece_of_whole alike.rightWhole, received.1]
      cases Response.ofReply url (other.receive right).1 with
      | error error => exact .failed received.2
      | ok response => exact .given response received.2

variable [HostMapping]

/-- Two exchanges come to the same if the requests that follow a redirection do. -/
theorem comeToSame_of_redirected {redirections : Nat} (alike : GoAlike left right)
    (same : script.replies = other.replies)
    (redirected : ∀ fewer next leftBehind rightBehind, redirections = fewer + 1 →
      leftBehind.replies = rightBehind.replies →
      ComeToSame
        ((follow (Script.deliver network) url fewer (left.redirected next)).run leftBehind)
        ((follow (Script.deliver network) url fewer (right.redirected next)).run rightBehind)) :
    ComeToSame ((follow (Script.deliver network) url redirections left).run script)
      ((follow (Script.deliver network) url redirections right).run other) := by
  have asked : ComeToSame ((ask (Script.deliver network) url left).run script)
      ((ask (Script.deliver network) url right).run other) := ask_comesToSame alike same
  rw [follow_run, follow_run]
  generalize (ask (Script.deliver network) url left).run script = leftAsked at asked ⊢
  generalize (ask (Script.deliver network) url right).run other = rightAsked at asked ⊢
  cases asked with
  | failed same => exact .failed same
  | @given response leftBehind rightBehind same =>
      dsimp only
      rw [alike.redirection?]
      cases response.redirection? right with
      | none => exact .given response same
      | some next =>
          cases redirections with
          | zero => exact .failed same
          | succ fewer =>
              dsimp only
              split
              · exact redirected fewer next leftBehind rightBehind rfl same
              · exact .failed same

/-- Requests that go the same way are redirected to the same URLs, so the exchanges that begin with
them come to the same response. -/
theorem follow_comesToSame (redirections : Nat) (alike : GoAlike left right)
    (same : script.replies = other.replies) :
    ComeToSame ((follow (Script.deliver network) url redirections left).run script)
      ((follow (Script.deliver network) url redirections right).run other) := by
  induction redirections generalizing left right script other with
  | zero => exact comeToSame_of_redirected alike same (by omega)
  | succ redirections inductionHypothesis =>
      refine comeToSame_of_redirected alike same ?_
      rintro fewer next leftBehind rightBehind ⟨⟩ same
      exact inductionHypothesis (goAlike_redirected left right next) same

end Exchange

namespace Upload

variable [HostMapping] [MultibyteDecoding]
variable {network : Network}

theorem exchange_comesToSame {left right : Request} {script other : Script}
    (alike : Exchange.GoAlike left right) (same : script.replies = other.replies) :
    Exchange.ComeToSame ((exchange (Script.deliver network) left).run script)
      ((exchange (Script.deliver network) right).run other) := by
  rw [exchange_run, exchange_run, alike.url]
  split
  · exact .failed same
  split
  · exact .failed same
  have followed : Exchange.ComeToSame
      ((Exchange.follow (Script.deliver network) right.url Exchange.redirectionLimit left).run
        script)
      ((Exchange.follow (Script.deliver network) right.url Exchange.redirectionLimit right).run
        other) := Exchange.follow_comesToSame _ alike same
  generalize (Exchange.follow (Script.deliver network) right.url
    Exchange.redirectionLimit left).run script = leftFollowed at followed ⊢
  generalize (Exchange.follow (Script.deliver network) right.url
    Exchange.redirectionLimit right).run other = rightFollowed at followed ⊢
  cases followed with
  | failed same => exact .failed same
  | given response same =>
      dsimp only
      cases response.submission with
      | error error => exact .failed same
      | ok submission => exact .given submission same

end Upload

/-- Whether two uploads end alike: with the same answer, or neither with any. -/
inductive UploadEnd.Alike : UploadEnd → UploadEnd → Prop
  | answered (submission : Submission) : Alike (.answered submission) (.answered submission)
  | failed (left right : UploadError) : Alike (.failed left) (.failed right)
  | clockOverflow : Alike .clockOverflow .clockOverflow

namespace Attempt

/-- Whether the form of an upload, if there is one, has a length that fits a word. -/
def IsCountable [HostMapping] (attempt : Attempt) : Prop :=
  ∀ post, attempt.request = .ok post → Countable post

/-- Whether two uploads differ at most in their forms: in the names, the data and the boundary. -/
structure DifferInForm (attempt other : Attempt) : Prop where
  network : attempt.network = other.network
  clock : attempt.surroundings.clock = other.surroundings.clock
  url : attempt.settings.url = other.settings.url
  mime : attempt.settings.mime = other.settings.mime
  timeout : attempt.settings.timeout = other.settings.timeout
  replies : attempt.script.replies = other.script.replies

variable {attempt other : Attempt}

theorem requests_of_differInForm [HostMapping] (differ : attempt.DifferInForm other) :
    (∃ left right, attempt.request = .error left ∧ other.request = .error right) ∨
      ∃ left right, attempt.request = .ok left ∧ other.request = .ok right ∧
        left.method = right.method ∧ left.url = right.url := by
  simp only [request, Upload.request, differ.mime, differ.url]
  cases MediaType.read other.settings.mime with
  | error refusal => exact .inl ⟨_, _, rfl, rfl⟩
  | ok mediaType =>
      cases Url.read other.settings.url with
      | error refusal => exact .inl ⟨_, _, rfl, rfl⟩
      | ok url =>
          dsimp only
          split
          · exact .inr ⟨_, _, rfl, rfl, rfl, rfl⟩
          · exact .inl ⟨_, _, rfl, rfl⟩

/-- What is in the form of an upload makes no difference to how the upload ends. -/
theorem alike_of_differInForm [HostMapping] [MultibyteDecoding]
    (differ : attempt.DifferInForm other) (trueLength : attempt.DeclaresTrueLength)
    (otherTrueLength : other.DeclaresTrueLength) (countable : attempt.IsCountable)
    (otherCountable : other.IsCountable) :
    UploadEnd.Alike attempt.ended.1 other.ended.1 := by
  have ran := Upload.run_run (Script.deliver attempt.network) attempt.surroundings
    attempt.settings attempt.sample attempt.script
  have otherRan := Upload.run_run (Script.deliver other.network) other.surroundings
    other.settings other.sample other.script
  rw [← ended, ← request] at ran otherRan
  rw [ran, otherRan]
  rcases requests_of_differInForm differ with
    ⟨left, right, refused, otherRefused⟩ |
    ⟨left, right, requested, otherRequested, method, url⟩
  · rw [refused, otherRefused]
    exact .failed left right
  rw [requested, otherRequested]
  have alike : Exchange.GoAlike left right :=
    ⟨method, url, offered_length_of_request requested trueLength (countable left requested),
      offered_length_of_request otherRequested otherTrueLength
        (otherCountable right otherRequested)⟩
  have exchanged : Exchange.ComeToSame
      ((Upload.exchange (Script.deliver other.network) left).run attempt.script)
      ((Upload.exchange (Script.deliver other.network) right).run other.script) :=
    Upload.exchange_comesToSame alike differ.replies
  dsimp only
  rw [differ.network, differ.clock, differ.timeout]
  split
  · exact .clockOverflow
  split
  · exact .failed _ _
  generalize (Upload.exchange (Script.deliver other.network) left).run attempt.script = leftEnd
    at exchanged ⊢
  generalize (Upload.exchange (Script.deliver other.network) right).run other.script = rightEnd
    at exchanged ⊢
  cases exchanged with
  | failed same => exact .failed _ _
  | given submission same => exact .answered submission

end Attempt

namespace Circumstances

/-- What a probe tells, with a sink that takes everything. -/
structure TellsFirstFailure [HostMapping] [MultibyteDecoding] (circumstances : Circumstances)
    (settings : Settings) (sink : Sink) :
    Prop where
  /-- A sample that cannot be opened is told, whatever the other settings and the replies are. -/
  unopened : ∀ error, circumstances.opened settings = .error error →
    let description := describe (error.causes settings.file)
    (circumstances.run settings sink).sink.written =
        Utf8.encode (ProbeOutcome.failureLine description) ∧
      "Failed to open ".toList ++ settings.file.shown <+: description ∧
      (circumstances.run settings sink).script = circumstances.script ∧
      ∀ (other : Circumstances) (otherSettings : Settings), other.files = circumstances.files →
        other.workingDirectory = circumstances.workingDirectory →
        otherSettings.file = settings.file →
        (other.run otherSettings sink).sink = (circumstances.run settings sink).sink ∧
          (other.run otherSettings sink).script = other.script
  /-- Otherwise a media type that is refused is told, whatever the URL and the replies are. -/
  refused : ∀ content refusal, circumstances.opened settings = .ok content →
    MediaType.read settings.mime = .error refusal →
    let description :=
      describe (UploadError.invalidMediaType settings.mime refusal).causes
    (circumstances.run settings sink).sink.written =
        Utf8.encode (ProbeOutcome.announcement settings ++ ProbeOutcome.failureLine description) ∧
      "Invalid content type `".toList ++ settings.mime ++ "`".toList <+: description ∧
      (circumstances.run settings sink).script = circumstances.script
  /-- Otherwise a URL that is not usable is told, unless the clock stops the probe. -/
  unusable : ∀ content mediaType, circumstances.opened settings = .ok content →
    MediaType.read settings.mime = .ok mediaType → ¬settings.HasUsableUrl →
    (circumstances.run settings sink).script = circumstances.script ∧
      (¬circumstances.ClockStops settings → ∃ description,
        "Failed to send submit request".toList <+: description ∧
        (circumstances.run settings sink).sink.written = Utf8.encode
          (ProbeOutcome.announcement settings ++ ProbeOutcome.failureLine description)) ∧
      (circumstances.ClockStops settings →
        (circumstances.run settings sink).sink.written =
            Utf8.encode (ProbeOutcome.announcement settings) ∧
          ∃ url, Url.read settings.url = .ok url ∧ url.hasHost = true ∧ url.isWebScheme = false)
  /-- The names of the field and of the file, and the content, never make a probe fail. -/
  form : ∀ (other : Circumstances) (otherSettings : Settings) (content otherContent : Bytes),
    let attempt := Attempt.ofProbe circumstances settings content
    let otherAttempt := Attempt.ofProbe other otherSettings otherContent
    attempt.DifferInForm otherAttempt → attempt.IsCountable → otherAttempt.IsCountable →
    UploadEnd.Alike (circumstances.uploaded settings content).1
      (other.uploaded otherSettings otherContent).1

variable [HostMapping] [MultibyteDecoding]
variable {circumstances : Circumstances} {settings : Settings} {sink : Sink}

theorem tellsUnopened (ready : sink.Ready) (takesAll : sink.TakesAll) {error : OpenError}
    (unopened : circumstances.opened settings = .error error) :
    let description := describe (error.causes settings.file)
    (circumstances.run settings sink).sink.written =
        Utf8.encode (ProbeOutcome.failureLine description) ∧
      "Failed to open ".toList ++ settings.file.shown <+: description ∧
      (circumstances.run settings sink).script = circumstances.script := by
  have holds : (ProbeOutcome.unopened (describe (error.causes settings.file))).Holds circumstances
      settings := ⟨error, unopened, rfl⟩
  have told := ProbeOutcome.run_of_holds ready takesAll holds
  refine ⟨told.2.2.1, ?_, told.2.2.2.2 ⟨_, rfl⟩⟩
  cases error with
  | notRegular =>
      refine List.IsPrefix.trans ?_ (isPrefix_describe _ _)
      exact List.prefix_append _ _
  | containsNul | unreachable | failed => exact isPrefix_describe _ _

/-- A probe without a sample does the same whatever else it is given. -/
theorem run_of_sameSample {other : Circumstances} {otherSettings : Settings} {error : OpenError}
    (unopened : circumstances.opened settings = .error error)
    (files : other.files = circumstances.files)
    (place : other.workingDirectory = circumstances.workingDirectory)
    (file : otherSettings.file = settings.file) :
    (other.run otherSettings sink).sink = (circumstances.run settings sink).sink ∧
      (other.run otherSettings sink).script = other.script := by
  have otherUnopened : other.opened otherSettings = .error error := by
    rw [opened, files, place, file]
    exact unopened
  rw [run, run, unopened, otherUnopened, Probe.run, Probe.run, file]
  exact ⟨rfl, rfl⟩

theorem tellsRefused (ready : sink.Ready) (takesAll : sink.TakesAll) {content : Bytes}
    {refusal : MediaTypeError} (opened : circumstances.opened settings = .ok content)
    (refused : MediaType.read settings.mime = .error refusal) :
    let description := describe (UploadError.invalidMediaType settings.mime refusal).causes
    (circumstances.run settings sink).sink.written =
        Utf8.encode (ProbeOutcome.announcement settings ++ ProbeOutcome.failureLine description) ∧
      "Invalid content type `".toList ++ settings.mime ++ "`".toList <+: description ∧
      (circumstances.run settings sink).script = circumstances.script := by
  have ended : circumstances.uploaded settings content =
      (.failed (.invalidMediaType settings.mime refusal), circumstances.script) :=
    Upload.run_of_refusedMediaType refused
  have holds : (ProbeOutcome.failed _).Holds circumstances settings :=
    ⟨content, _, opened, congrArg Prod.fst ended, rfl⟩
  refine ⟨(ProbeOutcome.run_of_holds ready takesAll holds).2.2.1, isPrefix_describe _ _, ?_⟩
  rw [(run_opened opened takesAll).2.2.2.2.1, ended]

theorem tellsUnusable (ready : sink.Ready) (takesAll : sink.TakesAll) {content mediaType : Bytes}
    (opened : circumstances.opened settings = .ok content)
    (accepted : MediaType.read settings.mime = .ok mediaType) (unusable : ¬settings.HasUsableUrl) :
    (circumstances.run settings sink).script = circumstances.script ∧
      (¬circumstances.ClockStops settings → ∃ description,
        "Failed to send submit request".toList <+: description ∧
        (circumstances.run settings sink).sink.written = Utf8.encode
          (ProbeOutcome.announcement settings ++ ProbeOutcome.failureLine description)) ∧
      (circumstances.ClockStops settings →
        (circumstances.run settings sink).sink.written =
            Utf8.encode (ProbeOutcome.announcement settings) ∧
          ∃ url, Url.read settings.url = .ok url ∧ url.hasHost = true ∧
            url.isWebScheme = false) := by
  obtain ⟨ending, ended, cases⟩ : ∃ ending, circumstances.uploaded settings content =
      (ending, circumstances.script) ∧ _ := Upload.run_of_unusableUrl accepted unusable
  refine ⟨?_, fun goesOn => ?_, fun stops => ⟨?_, ?_⟩⟩
  · rw [(run_opened opened takesAll).2.2.2.2.1, ended]
  · rcases cases with rfl | ⟨error, rfl, purpose⟩
    · exact absurd ((uploaded_eq_clockOverflow_iff opened).mp (congrArg Prod.fst ended)) goesOn
    · have holds : (ProbeOutcome.failed (describe error.causes)).Holds circumstances settings :=
        ⟨content, error, opened, congrArg Prod.fst ended, rfl⟩
      refine ⟨_, ?_, (ProbeOutcome.run_of_holds ready takesAll holds).2.2.1⟩
      rw [← purpose]
      exact isPrefix_describe _ _
  · rw [written_of_clockStops ready takesAll stops, ProbeOutcome.announcement_encode]
  · obtain ⟨_, post, _, requested, _⟩ := stops
    obtain ⟨_, url, _, reads, hasHost, _⟩ := Upload.request_ok_iff.mp requested
    exact ⟨url, reads, hasHost,
      Bool.eq_false_iff.mpr fun isWeb => unusable ⟨url, reads, hasHost, isWeb⟩⟩

end Circumstances

/-- A probe tells the first of its failures: that its sample cannot be opened, that its media type
is refused, that its URL is not usable, whichever names of machines the mapping accepts. Nothing is
sent then, and later inputs make no difference. The names of the field and of the file are never
what makes it fail. -/
theorem first_failure_is_told [HostMapping] [MultibyteDecoding] (circumstances : Circumstances)
    (settings : Settings) (sink : Sink) (ready : sink.Ready) (takesAll : sink.TakesAll) :
    circumstances.TellsFirstFailure settings sink where
  unopened error unopened := by
    have tells := Circumstances.tellsUnopened ready takesAll unopened
    exact ⟨tells.1, tells.2.1, tells.2.2, fun _ _ => Circumstances.run_of_sameSample unopened⟩
  refused _ _ := Circumstances.tellsRefused ready takesAll
  unusable _ _ := Circumstances.tellsUnusable ready takesAll
  form _ _ _ _ differ countable otherCountable :=
    Attempt.alike_of_differInForm differ rfl rfl countable otherCountable

/-- Where media type and URL are both wrong, the media type is told; and a quote and an end of a
line in the name of the field do no harm. -/
theorem media_type_is_told_before_url :
    let circumstances := Circumstances.withReply
      ⟨Bytes.ofAscii "HTTP/1.1 204 No Content\r\n\r\n".toList, .staysOpen⟩
    let refused := { Circumstances.localSettings with
      mime := "plain".toList, url := "nowhere".toList }
    let quoted := { Circumstances.localSettings with field := "\"\r\n".toList }
    (({} : Sink).Ready ∧ ({} : Sink).TakesAll ∧
        circumstances.opened refused = .ok [0x4D, 0x5A] ∧
        MediaType.read refused.mime = .error .missingSlash) ∧
      ((circumstances.run refused {}).script = circumstances.script ∧
        ∃ description, "Invalid content type `plain`".toList <+: description ∧
          (circumstances.run refused {}).sink.written = Utf8.encode
            (ProbeOutcome.announcement refused ++ ProbeOutcome.failureLine description)) ∧
      UploadEnd.Alike (circumstances.uploaded Circumstances.localSettings [0x4D, 0x5A]).1
        (circumstances.uploaded quoted [0x4D, 0x5A]).1 := by
  intro circumstances refused quoted
  have opened : circumstances.opened refused = .ok [0x4D, 0x5A] := by decide +kernel
  have refusal : MediaType.read refused.mime = .error .missingSlash := by decide +kernel
  have isCountable (settings : Settings) (small :
      ((Attempt.ofProbe circumstances settings [0x4D, 0x5A]).request.toOption.all
        fun post => post.offered.length < FormPart.lengthModulus) = true) :
      (Attempt.ofProbe circumstances settings [0x4D, 0x5A]).IsCountable := by
    intro post requested
    rw [requested] at small
    have fits : post.offered.length < FormPart.lengthModulus := of_decide_eq_true small
    exact fits
  have tells := (first_failure_is_told circumstances refused {} Sink.ready_empty
    Sink.takesAll_empty).refused [0x4D, 0x5A] .missingSlash opened refusal
  have alike := (first_failure_is_told circumstances Circumstances.localSettings {}
    Sink.ready_empty Sink.takesAll_empty).form circumstances quoted [0x4D, 0x5A] [0x4D, 0x5A]
    ⟨rfl, rfl, rfl, rfl, rfl, rfl⟩ (isCountable _ (by decide +kernel))
    (isCountable _ (by decide +kernel))
  exact ⟨⟨Sink.ready_empty, Sink.takesAll_empty, opened, refusal⟩,
    ⟨tells.2.2, _, tells.2.1, tells.1⟩, alike⟩

end UploadProbe
