import Mathlib
import UploadProbe.Libraries
import UploadProbe.Proofs.Descriptions
import UploadProbe.Proofs.Outcomes
import UploadProbe.Proofs.RequestSeries
import UploadProbe.Proofs.UrlCharacters

/-!
# Lines about failures

A description consists of the texts of causes and of separators, so the end of a line gets into it
only with a cause. The causes of a failed upload are fixed texts, numbers, texts of URLs that have
been read, and the configured media type when it is refused; those of a sample that cannot be opened
name its path. Hence the line about a failure is one line exactly as long as these two configured
texts, each where it is named, hold no end of a line.
-/

namespace UploadProbe

section Descriptions

variable {c : Char} (clear : c ∉ causeSeparator)

include clear

/-- A character that is not in a separator is in a description exactly if it is in a cause. -/
theorem mem_describe_iff {causes : List Text} :
    c ∈ describe causes ↔ ∃ cause ∈ causes, c ∈ cause := by
  constructor
  · intro isMember
    rw [describe_eq_joinWith, Text.mem_joinWith_iff clear] at isMember
    obtain ⟨cause, told, inCause⟩ := isMember
    exact ⟨cause, (toldCauses_sublist causes).subset told, inCause⟩
  · rintro ⟨cause, isCause, inCause⟩
    exact (isInfix_describe isCause).subset inCause

theorem exists_mem_nested_iff {layers : List Text} :
    (∃ cause ∈ UploadError.nested layers, c ∈ cause) ↔ ∃ layer ∈ layers, c ∈ layer := by
  induction layers with
  | nil => simp [UploadError.nested]
  | cons layer layers inductionHypothesis =>
      rw [UploadError.nested, List.exists_mem_cons_iff, inductionHypothesis,
        Text.mem_joinWith_iff clear, List.exists_mem_cons_iff]
      tauto

theorem mem_describe_causes_iff {error : UploadError} :
    c ∈ describe error.causes ↔ c ∈ error.purpose ∨ ∃ layer ∈ error.layers, c ∈ layer := by
  rw [mem_describe_iff clear, UploadError.causes, List.exists_mem_cons_iff,
    exists_mem_nested_iff clear]

end Descriptions

theorem newline_notMem_causeSeparator : '\n' ∉ causeSeparator := by
  decide

namespace Network

/-- Whether a network gives every reason in one line. -/
def SaysOneLine (network : Network) : Prop :=
  ∀ url error, network url = some error → ∀ layer ∈ error.layers, '\n' ∉ layer

theorem loopback_saysOneLine (port : Nat) : SaysOneLine (loopback port) := by
  intro url error unconnected
  unfold loopback at unconnected
  split at unconnected
  · split at unconnected
    · cases unconnected
      decide
    · split at unconnected
      · cases unconnected
      · cases unconnected
        decide
  · cases unconnected
    decide
  · cases unconnected
    decide

end Network

namespace UploadError

/-- What an exchange at a network can report about the URL of an upload. -/
def IsAbout (network : Network) (url : Url) : UploadError → Prop
  | .invalidMediaType _ _ | .invalidUrl _ => False
  | .connect named error => named = url ∧ ∃ asked, network asked = some error
  | .scheme named | .unsendable named | .bodyNotTaken named | .bodyTooShort named _
  | .timedOut named | .closedEarly named | .head named _ | .framing named _
  | .tooManyRedirects named => named = url
  | .body _ => True

theorem newline_notMem_about {layer : String} (clear : '\n' ∉ layer.toList) {url : Url}
    (isNormal : url.IsNormal) : '\n' ∉ about layer url := by
  have inUrl : '\n' ∉ url.text := fun isMember =>
    absurd (isNormal.text_avoids '\n' isMember) (by decide)
  simp only [about, List.mem_append, not_or]
  exact ⟨⟨⟨clear, by decide⟩, inUrl⟩, by decide⟩

theorem newline_notMem_bodyLayers (error : BodyError) :
    ∀ layer ∈ bodyLayers error, '\n' ∉ layer := by
  have readingClear {found : Text} (clear : '\n' ∉ found) :
      ∀ layer ∈ bodyLayers.reading found, '\n' ∉ layer := by
    simp only [bodyLayers.reading, List.forall_mem_cons, List.not_mem_nil, false_implies,
      implies_true, and_true]
    exact ⟨by decide, by decide, clear⟩
  cases error with
  | timedOut => decide
  | endsEarly => exact readingClear (by decide)
  | endsBetweenChunks => exact readingClear (by decide)
  | chunk error => exact readingClear (by cases error <;> decide)

theorem newline_notMem_layers {network : Network} (oneLine : network.SaysOneLine) {url : Url}
    (isNormal : url.IsNormal) {error : UploadError} (isAbout : error.IsAbout network url) :
    ∀ layer ∈ error.layers, '\n' ∉ layer := by
  have named {layer : String} (clear : '\n' ∉ layer.toList) : '\n' ∉ about layer url :=
    newline_notMem_about clear isNormal
  cases error with
  | invalidMediaType | invalidUrl => exact isAbout.elim
  | connect =>
      obtain ⟨rfl, asked, unconnected⟩ := isAbout
      simp only [layers, List.forall_mem_cons]
      exact ⟨named (by decide), by decide, oneLine asked _ unconnected⟩
  | body error => exact newline_notMem_bodyLayers error
  | bodyTooShort _ missing =>
      cases isAbout
      simp only [layers, List.forall_mem_cons, List.mem_append, not_or]
      exact ⟨named (by decide), by decide, ⟨⟨by decide, Text.newline_notMem_ofNat missing⟩,
        by decide⟩, List.forall_mem_nil _⟩
  | head _ error =>
      cases isAbout
      simp only [layers, List.forall_mem_cons]
      exact ⟨named (by decide), by cases error <;> decide, List.forall_mem_nil _⟩
  | framing _ error =>
      cases isAbout
      simp only [layers, List.forall_mem_cons]
      exact ⟨named (by decide), by cases error <;> decide, List.forall_mem_nil _⟩
  | scheme | unsendable | bodyNotTaken | timedOut | closedEarly | tooManyRedirects =>
      cases isAbout
      simp only [layers, List.forall_mem_cons]
      exact ⟨named (by decide), by decide, List.forall_mem_nil _⟩

theorem purpose_of_isAbout {network : Network} {url : Url} {error : UploadError}
    (isAbout : error.IsAbout network url) :
    error.purpose = "Failed to send submit request".toList ∨
      error.purpose = "Failed to read submit response body".toList := by
  cases error with
  | invalidMediaType => exact isAbout.elim
  | body => exact .inr rfl
  | _ => exact .inl rfl

end UploadError

namespace MediaTypeError

theorem newline_notMem_capitalHex (number : Nat) : '\n' ∉ capitalHex number := by
  have digits : Text.Avoids (fun c => c.toUpper == '\n') (Text.ofNatHex number) :=
    Text.avoids_toDigits (by decide) (by decide) number
  intro isMember
  obtain ⟨digit, isDigit, isNewline⟩ := List.mem_map.mp isMember
  exact absurd isNewline (by simpa using digits digit isDigit)

theorem newline_notMem_message (error : MediaTypeError) : '\n' ∉ error.message := by
  unfold message
  split
  · simp
  · simp
  · simp
  · next position octet =>
    have inOctet := newline_notMem_capitalHex octet.toNat
    have inPosition := Text.newline_notMem_ofNat position
    simp only [List.mem_append, inOctet, inPosition, or_false, not_or]
    exact ⟨by decide, by decide⟩

end MediaTypeError

namespace Exchange

variable {network : Network} {url : Url}

theorem isAbout_of_unsent {request : Request} {error : UploadError}
    (isAbout : error.IsAbout network url) : (unsent url request error).IsAbout network url := by
  unfold unsent
  split
  · rfl
  · exact isAbout

theorem isAbout_of_ofReply {reply : Reply} {error : UploadError}
    (refused : Response.ofReply url reply = .error error) : error.IsAbout network url := by
  unfold Response.ofReply at refused
  split at refused
  · cases refused
    rfl
  · split at refused <;> cases refused <;> rfl
  · split at refused
    · cases refused
      rfl
    · cases refused

theorem isAbout_of_ask {request : Request} {script left : Script} {error : UploadError}
    (failed : (ask (Script.deliver network) url request).run script = (.error error, left)) :
    error.IsAbout network url := by
  rw [ask_run, Script.deliver_run] at failed
  cases way : network request.url with
  | some reason =>
      rw [way] at failed
      cases failed
      exact isAbout_of_unsent ⟨rfl, request.url, way⟩
  | none =>
      rw [way] at failed
      dsimp only at failed
      by_cases short : request.offered.length < request.declared
      · rw [if_pos short] at failed
        cases failed
        rfl
      · rw [if_neg short] at failed
        have refused := congrArg Prod.fst failed
        dsimp only at refused
        split at refused
        · cases refused
          rfl
        · exact isAbout_of_ofReply refused

theorem isAbout_of_follow [HostMapping] {redirections : Nat} {request : Request}
    {script left : Script} {error : UploadError}
    (failed : (follow (Script.deliver network) url redirections request).run script =
      (.error error, left)) : error.IsAbout network url := by
  induction redirections generalizing request script with
  | zero =>
      rw [follow_run] at failed
      split at failed
      · next asked =>
        cases failed
        exact isAbout_of_ask asked
      · split at failed <;> cases failed
        rfl
  | succ redirections inductionHypothesis =>
      rw [follow_run] at failed
      split at failed
      · next asked =>
        cases failed
        exact isAbout_of_ask asked
      · split at failed
        · cases failed
        · dsimp only at failed
          split at failed
          · exact inductionHypothesis failed
          · cases failed
            rfl

end Exchange

namespace Upload

variable [HostMapping]
variable {network : Network}

/-- An upload has no request because of its media type, or else because of its URL. -/
theorem request_error_cases {boundary : Boundary} {settings : Settings} {sample : Sample}
    {error : UploadError} (refused : request boundary settings sample = .error error) :
    (∃ refusal, MediaType.read settings.mime = .error refusal ∧
      error = .invalidMediaType settings.mime refusal) ∨
    (∃ mediaType, MediaType.read settings.mime = .ok mediaType) ∧
      ((∃ refusal, Url.read settings.url = .error refusal ∧ error = .invalidUrl refusal) ∨
        ∃ url, Url.read settings.url = .ok url ∧ url.hasHost = false ∧ error = .scheme url) := by
  unfold request at refused
  split at refused
  · next refusal isRefused =>
    cases refused
    exact .inl ⟨refusal, isRefused, rfl⟩
  · next mediaType accepted =>
    refine .inr ⟨⟨mediaType, accepted⟩, ?_⟩
    split at refused
    · next refusal isRefused =>
      cases refused
      exact .inl ⟨refusal, isRefused, rfl⟩
    · next url reads =>
      split at refused
      · cases refused
      · next noHost =>
        cases refused
        exact .inr ⟨url, reads, by simpa using noHost, rfl⟩

variable [MultibyteDecoding]

theorem isAbout_of_exchange {request : Request} {script left : Script} {error : UploadError}
    (failed : (exchange (Script.deliver network) request).run script = (.error error, left)) :
    error.IsAbout network request.url := by
  rw [exchange_run] at failed
  split at failed
  · cases failed
    exact Exchange.isAbout_of_unsent rfl
  split at failed
  · cases failed
    exact Exchange.isAbout_of_unsent rfl
  split at failed
  · next followed =>
    cases failed
    exact Exchange.isAbout_of_follow followed
  · have refused := congrArg Prod.fst failed
    dsimp only [Response.submission] at refused
    split at refused <;> cases refused
    trivial

/-- Why an upload can fail: its media type or its URL is refused, or something is wrong with the
exchange about its URL. -/
theorem failed_cases {surroundings : Surroundings} {settings : Settings} {sample : Sample}
    {script : Script} {error : UploadError}
    (failed : ((run (Script.deliver network) surroundings settings sample).run script).1 =
      .failed error) :
    (∃ refusal, MediaType.read settings.mime = .error refusal ∧
      error = .invalidMediaType settings.mime refusal) ∨
    (∃ mediaType, MediaType.read settings.mime = .ok mediaType) ∧
      ((∃ refusal, Url.read settings.url = .error refusal ∧ error = .invalidUrl refusal) ∨
        ∃ url, url.IsNormal ∧ error.IsAbout network url) := by
  rw [run_run] at failed
  cases requested : request surroundings.boundary settings sample with
  | error refusal =>
      rw [requested] at failed
      cases failed
      refine (request_error_cases requested).imp_right fun ⟨accepted, urlFails⟩ =>
        ⟨accepted, urlFails.imp_right ?_⟩
      rintro ⟨url, reads, -, rfl⟩
      exact ⟨url, Url.isNormal_of_read reads, rfl⟩
  | ok post =>
      rw [requested] at failed
      obtain ⟨mediaType, url, accepted, reads, -, rfl⟩ := request_ok_iff.mp requested
      have isNormal := Url.isNormal_of_read reads
      have postNormal : (Request.takeCredentials url).1.IsNormal := by
        rcases Request.takeCredentials_url url with same | without
        · rw [same]
          exact isNormal
        · rw [without]
          exact isNormal.withoutUserinfo
      refine .inr ⟨⟨mediaType, accepted⟩, .inr ⟨_, postNormal, ?_⟩⟩
      dsimp only at failed
      split at failed
      · cases failed
      split at failed
      · cases failed
        rfl
      · split at failed
        · cases failed
        · next exchanged =>
          cases failed
          exact isAbout_of_exchange exchanged

end Upload

namespace ProbeOutcome

/-- The description of an outcome that is a failure. -/
def description? : ProbeOutcome → Option Text
  | unopened description | failed description => some description
  | answered _ _ => none

/-- What stands in front of the line about a failure. -/
def front (settings : Settings) : ProbeOutcome → Text
  | unopened _ => []
  | _ => announcement settings

end ProbeOutcome

namespace Circumstances

/-- Whether a configured text that the failure names holds the end of a line: the path of a sample
that cannot be opened, or a media type that is refused. -/
def NamesBrokenText (circumstances : Circumstances) (settings : Settings) : Prop :=
  match circumstances.opened settings with
  | .error _ => '\n' ∈ settings.file.shown
  | .ok _ => (∃ refusal, MediaType.read settings.mime = .error refusal) ∧ '\n' ∈ settings.mime

end Circumstances

/-- The failure to open a path names the path, and a reason in one line. -/
theorem newline_mem_description_of_unopened {tree : FileTree} {place : Place} {path : SamplePath}
    {error : OpenError} (unopened : tree.openSample place path = .error error) :
    '\n' ∈ describe (error.causes path) ↔ '\n' ∈ path.shown := by
  rw [mem_describe_iff newline_notMem_causeSeparator]
  cases error with
  | containsNul => simp [OpenError.causes]
  | unreachable error =>
      have inner : '\n' ∉ error.message := by cases error <;> decide
      simp [OpenError.causes, inner]
  | notRegular => simp [OpenError.causes]
  | failed reason =>
      unfold FileTree.openSample at unopened
      split at unopened
      · cases unopened
      · split at unopened <;> cases unopened

namespace UploadError

theorem newline_mem_purpose_invalidMediaType_iff {mime : Text} {refusal : MediaTypeError} :
    '\n' ∈ (invalidMediaType mime refusal).purpose ↔ '\n' ∈ mime := by
  change '\n' ∈ "Invalid content type `".toList ++ mime ++ "`".toList ↔ '\n' ∈ mime
  simp

theorem newline_notMem_layers_invalidMediaType (mime : Text) (refusal : MediaTypeError) :
    ∀ layer ∈ (invalidMediaType mime refusal).layers, '\n' ∉ layer := by
  have inMessage := refusal.newline_notMem_message
  simp only [layers, List.forall_mem_cons, List.mem_append, inMessage, or_false]
  exact ⟨by decide, by decide, List.forall_mem_nil _⟩

theorem newline_notMem_layers_invalidUrl (refusal : UrlError) :
    ∀ layer ∈ (invalidUrl refusal).layers, '\n' ∉ layer := by
  simp only [layers, List.forall_mem_cons]
  exact ⟨by decide, by cases refusal <;> decide, List.forall_mem_nil _⟩

end UploadError

/-- The failure of an upload names the media type if it is refused, and otherwise nothing but fixed
texts, numbers and URLs that have been read. -/
theorem newline_mem_description_of_failed [HostMapping] [MultibyteDecoding] {network : Network}
    (oneLine : network.SaysOneLine) {surroundings : Surroundings} {settings : Settings}
    {sample : Sample} {script : Script} {error : UploadError}
    (failed : ((Upload.run (Script.deliver network) surroundings settings sample).run script).1 =
      .failed error) :
    '\n' ∈ describe error.causes ↔
      (∃ refusal, MediaType.read settings.mime = .error refusal) ∧ '\n' ∈ settings.mime := by
  have clear {error : UploadError} (clearLayers : ∀ layer ∈ error.layers, '\n' ∉ layer) :
      '\n' ∈ describe error.causes ↔ '\n' ∈ error.purpose := by
    rw [mem_describe_causes_iff newline_notMem_causeSeparator]
    exact or_iff_left fun ⟨layer, isLayer, inLayer⟩ => clearLayers layer isLayer inLayer
  rcases Upload.failed_cases failed with ⟨refusal, isRefused, rfl⟩ | ⟨⟨mediaType, accepted⟩, others⟩
  · rw [clear (UploadError.newline_notMem_layers_invalidMediaType _ _),
      UploadError.newline_mem_purpose_invalidMediaType_iff]
    exact (and_iff_right ⟨refusal, isRefused⟩).symm
  have notRefused : ¬∃ refusal, MediaType.read settings.mime = .error refusal := by
    simp [accepted]
  refine iff_of_false ?_ fun named => notRefused named.1
  rcases others with ⟨refusal, -, rfl⟩ | ⟨url, isNormal, isAbout⟩
  · rw [clear (UploadError.newline_notMem_layers_invalidUrl refusal)]
    change '\n' ∉ "Failed to send submit request".toList
    decide
  · rw [clear (UploadError.newline_notMem_layers oneLine isNormal isAbout)]
    rcases UploadError.purpose_of_isAbout isAbout with isPurpose | isPurpose
    · rw [isPurpose]
      decide
    · rw [isPurpose]
      decide

/-- Whatever the URL, the field, the files and the replies are, the outcome of a probe that fails is
the line about its failure, and what this line describes is broken exactly if it names a configured
text with an end of a line in it. -/
theorem failure_is_one_line_iff [HostMapping] [MultibyteDecoding] (circumstances : Circumstances)
    (settings : Settings) (oneLine : circumstances.network.SaysOneLine) (sink : Sink)
    (ready : sink.Ready) (takesAll : sink.TakesAll) (outcome : ProbeOutcome)
    (holds : outcome.Holds circumstances settings) (description : Text)
    (isFailure : outcome.description? = some description) :
    (circumstances.run settings sink).sink.written =
        Utf8.encode (outcome.front settings ++ ProbeOutcome.failureLine description) ∧
      ('\n' ∈ description ↔ circumstances.NamesBrokenText settings) := by
  have written := (ProbeOutcome.run_of_holds ready takesAll holds).2.2.1
  rw [written, Circumstances.NamesBrokenText]
  cases outcome with
  | unopened told =>
      cases isFailure
      obtain ⟨error, unopened, rfl⟩ := holds
      rw [unopened]
      exact ⟨rfl, newline_mem_description_of_unopened unopened⟩
  | answered status body => cases isFailure
  | failed told =>
      cases isFailure
      obtain ⟨content, error, opened, failed, rfl⟩ := holds
      rw [opened]
      exact ⟨rfl, newline_mem_description_of_failed oneLine failed⟩

/-- A path with an end of a line in it leads to a failure that is told in two lines. -/
theorem path_with_newline_breaks_failure_line :
    let circumstances := Circumstances.withReply ⟨[], .closes⟩
    let settings := { Circumstances.localSettings with file := Bytes.ofAscii "a\nb".toList }
    let description := "Failed to open a\nb: No such file or directory (os error 2)".toList
    (circumstances.network.SaysOneLine ∧ ({} : Sink).Ready ∧ ({} : Sink).TakesAll ∧
        (ProbeOutcome.unopened description).Holds circumstances settings) ∧
      (circumstances.run settings {}).sink.written =
        Utf8.encode (ProbeOutcome.failureLine description) ∧
      '\n' ∈ description := by
  intro circumstances settings description
  have unopened : circumstances.opened settings = .error (.unreachable .missing) := by
    decide +kernel
  have holds : (ProbeOutcome.unopened description).Holds circumstances settings :=
    ⟨_, unopened, by decide +kernel⟩
  have tells := failure_is_one_line_iff circumstances settings (Network.loopback_saysOneLine _) {}
    Sink.ready_empty Sink.takesAll_empty _ holds description rfl
  refine ⟨⟨Network.loopback_saysOneLine _, Sink.ready_empty, Sink.takesAll_empty, holds⟩,
    tells.1, tells.2.mpr ?_⟩
  rw [Circumstances.NamesBrokenText, unopened]
  decide +kernel

end UploadProbe
