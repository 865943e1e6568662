import Mathlib
import UploadProbe.Libraries
import UploadProbe.Proofs.FormReading
import UploadProbe.Proofs.MediaType
import UploadProbe.Proofs.ProbeSteps
import UploadProbe.Proofs.Requests

/-!
# The forms that servers receive

Whatever an upload is called and whatever it holds, the form that a server receives of it tells all
of it: the boundary in its content type, its own length, the file name and the data, and the name of
the form field unless that name is a single character that has to be encoded. Even then no other
upload has the same form.
-/

namespace UploadProbe

namespace Upload

theorem request_eq_ok [HostMapping] {boundary : Boundary} {settings : Settings} {sample : Sample}
    {post : Request} (requested : request boundary settings sample = .ok post) :
    ∃ mediaType url authorized, MediaType.read settings.mime = .ok mediaType ∧
      post = Request.postForm url authorized boundary
        ⟨settings.field, sample.fileName, mediaType⟩ sample.content sample.length := by
  rcases request_ok_iff.mp requested with ⟨mediaType, url, mediaRead, -, -, same⟩
  exact ⟨mediaType, _, _, mediaRead, same⟩

end Upload

namespace Request

variable (url : Url) (authorized : Option Text) (boundary : Boundary) (part : FormPart)
  (data : Bytes) (length : Nat)

theorem header?_contentType_postForm :
    (postForm url authorized boundary part data length).header? .contentType =
      some (FormPart.formType boundary) := by
  cases authorized <;> rfl

theorem header?_contentLength_postForm :
    (postForm url authorized boundary part data length).header? .contentLength =
      some (Text.ofNat (part.framedLength boundary length)) := by
  cases authorized <;> rfl

/-- The declared length never exceeds the length of the form, so the body has exactly that. -/
theorem length_body_postForm :
    (postForm url authorized boundary part data data.length).body.length =
      part.framedLength boundary data.length := by
  have atMost : part.framedLength boundary data.length ≤ (part.framed boundary data).length := by
    simp only [FormPart.framedLength, FormPart.framed, List.length_append]
    exact Nat.mod_le _ _
  simp only [body, postForm, List.length_take]
  exact Nat.min_eq_left atMost

theorem body_postForm
    (countable : (part.framed boundary data).length < FormPart.lengthModulus) :
    (postForm url authorized boundary part data data.length).body =
      part.framed boundary data := by
  have counted : part.framedLength boundary data.length = (part.framed boundary data).length := by
    simp only [FormPart.framed, List.length_append] at countable
    exact (part.length_framed boundary data countable).symm
  simp only [body, postForm, counted, List.take_length]

end Request

namespace Attempt

/-- Whether the true length of the content is declared. -/
def DeclaresTrueLength (attempt : Attempt) : Prop :=
  attempt.sample.length = attempt.sample.content.length

/-- Whether the length of everything that a request offers as its body fits a word, as the length of
a file and of some names in memory does. -/
def Countable (post : Request) : Prop :=
  post.offered.length < FormPart.lengthModulus

/-- Whether two uploads carry the same data under the same names. -/
def CarriesSame (left right : Attempt) : Prop :=
  left.settings.field = right.settings.field ∧
    left.sample.fileName = right.sample.fileName ∧ left.sample.content = right.sample.content

def ofProbe (circumstances : Circumstances) (settings : Settings) (content : Bytes) : Attempt where
  network := circumstances.network
  surroundings := circumstances.surroundings
  settings := settings
  sample := Probe.sample settings content
  script := circumstances.script

theorem declaresTrueLength_ofProbe (circumstances : Circumstances) (settings : Settings)
    (content : Bytes) : (ofProbe circumstances settings content).DeclaresTrueLength :=
  rfl

variable {attempt : Attempt} {post : Request}

theorem isLine_typeLine_of_read {mime : Text} {mediaType : Bytes}
    (mediaRead : MediaType.read mime = .ok mediaType) :
    FormPart.IsLine (FormPart.typeLine mediaType) :=
  FormPart.isLine_typeLine fun feed =>
    absurd (MediaType.isPrintable_of_read mediaRead 0x0A feed) (by decide)

/-- What a server receives as a form is laid out around the content of the sample, and its headers
tell the boundary and the length. -/
theorem posted_layout [HostMapping] [MultibyteDecoding] (posted : post ∈ attempt.posts)
    (trueLength : attempt.DeclaresTrueLength) (countable : Countable post) :
    ∃ mediaType, MediaType.read attempt.settings.mime = .ok mediaType ∧
      post.header? .contentType = some (FormPart.formType attempt.surroundings.boundary) ∧
      post.header? .contentLength = some (Text.ofNat post.body.length) ∧
      post.body = FormPart.layout attempt.surroundings.boundary.text
        (Utf8.encode (FormPart.disposition
          ⟨attempt.settings.field, attempt.sample.fileName, mediaType⟩))
        (FormPart.typeLine mediaType) attempt.sample.content := by
  rcases Upload.request_eq_ok (request_of_posted posted) with
    ⟨mediaType, url, authorized, mediaRead, rfl⟩
  rw [DeclaresTrueLength] at trueLength
  rw [trueLength] at countable ⊢
  refine ⟨mediaType, mediaRead, Request.header?_contentType_postForm .., ?_, ?_⟩
  · rw [Request.length_body_postForm]
    exact Request.header?_contentLength_postForm ..
  · rw [Request.body_postForm _ _ _ _ _ countable, FormPart.framed_eq_layout]

/-- A form that a server receives tells the upload: its octets are two lines and the data between
lines of the boundary, its first line tells the file name and, unless that is a single encoded
character, the form field, and no other upload has the same form at the same boundary. -/
theorem posted_form_tells_upload [HostMapping] [MultibyteDecoding] (posted : post ∈ attempt.posts)
    (trueLength : attempt.DeclaresTrueLength) (countable : Countable post) :
    (∃ boundary dispositionLine typeLine told,
      boundary.length = 67 ∧
      post.header? .contentType = some ("multipart/form-data; boundary=".toList ++ boundary) ∧
      post.header? .contentLength = some (Text.ofNat post.body.length) ∧
      post.body = FormPart.layout boundary (Utf8.encode dispositionLine) typeLine
        attempt.sample.content ∧
      FormPart.IsLine (Utf8.encode dispositionLine) ∧ FormPart.IsLine typeLine ∧
      (∃ mediaType, MediaType.read attempt.settings.mime = .ok mediaType ∧
        typeLine = FormPart.typeLine mediaType) ∧
      FormPart.readDisposition? dispositionLine = some (told, attempt.sample.fileName) ∧
      (told = attempt.settings.field ↔ ¬FormPart.IsLoneEncoded attempt.settings.field) ∧
      (FormPart.IsLoneEncoded attempt.settings.field →
        told = Percent.encode Percent.segmentSet attempt.settings.field)) ∧
    ∀ (other : Attempt) (otherPost : Request), otherPost ∈ other.posts →
      other.DeclaresTrueLength → Countable otherPost →
      otherPost.header? .contentType = post.header? .contentType →
      otherPost.body = post.body → other.CarriesSame attempt := by
  rcases posted_layout posted trueLength countable with
    ⟨mediaType, mediaRead, contentType, contentLength, body⟩
  have isTypeLine := isLine_typeLine_of_read mediaRead
  constructor
  · exact ⟨attempt.surroundings.boundary.text,
      FormPart.disposition ⟨attempt.settings.field, attempt.sample.fileName, mediaType⟩,
      FormPart.typeLine mediaType, FormPart.toldField attempt.settings.field,
      Boundary.length_text _, contentType, contentLength, body,
      FormPart.isLine_disposition _, isTypeLine, ⟨mediaType, mediaRead, rfl⟩,
      FormPart.readDisposition?_disposition _, FormPart.toldField_eq_iff _,
      FormPart.toldField_of_isLoneEncoded⟩
  · intro other otherPost otherPosted otherTrueLength otherCountable sameType sameBody
    rcases posted_layout otherPosted otherTrueLength otherCountable with
      ⟨otherMediaType, otherMediaRead, otherContentType, -, otherBody⟩
    rw [otherContentType, contentType, Option.some.injEq] at sameType
    unfold FormPart.formType at sameType
    rw [List.append_cancel_left_eq] at sameType
    rw [otherBody, body, sameType] at sameBody
    rcases FormPart.layout_injective
        ⟨FormPart.isLine_disposition _, isLine_typeLine_of_read otherMediaRead⟩
        ⟨FormPart.isLine_disposition _, isTypeLine⟩ sameBody with
      ⟨sameDisposition, -, sameContent⟩
    rcases FormPart.disposition_injective (Utf8.encode_injective sameDisposition) with
      ⟨sameField, sameFileName⟩
    exact ⟨sameField, sameFileName, sameContent⟩

/-- A probe that names its form field by a quote, at a server that answers it. -/
def quoteProbe : Attempt :=
  ofProbe
    (.withReply ⟨Bytes.ofAscii "HTTP/1.1 200 OK\r\ncontent-length: 0\r\n\r\n".toList, .closes⟩)
    { Circumstances.localSettings with field := ['"'] } [0x4D, 0x5A]

/-- The form of such a probe is received, and names the field by three characters. -/
theorem quote_field_is_told_encoded :
    ∃ post ∈ quoteProbe.posts, ∃ boundary dispositionLine typeLine told,
      post.body = FormPart.layout boundary (Utf8.encode dispositionLine) typeLine [0x4D, 0x5A] ∧
      FormPart.readDisposition? dispositionLine = some (told, "sample.bin".toList) ∧
      told = "%22".toList ∧ told ≠ quoteProbe.settings.field := by
  have received : quoteProbe.posts ≠ [] := by decide +kernel
  have countable : ∀ post ∈ quoteProbe.posts, post.offered.length < FormPart.lengthModulus := by
    decide +kernel
  rcases List.exists_mem_of_ne_nil _ received with ⟨post, posted⟩
  have lone : FormPart.IsLoneEncoded quoteProbe.settings.field := ⟨'"', rfl, by decide, rfl⟩
  rcases posted_form_tells_upload posted (declaresTrueLength_ofProbe ..) (countable post posted)
    with ⟨⟨boundary, dispositionLine, typeLine, told, -, -, -, body, -, -, -, read, verbatim,
      encoded⟩, -⟩
  exact ⟨post, posted, boundary, dispositionLine, typeLine, told, body, read, encoded lone,
    fun same => verbatim.mp same lone⟩

end Attempt

end UploadProbe
