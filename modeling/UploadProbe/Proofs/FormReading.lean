import Mathlib
import UploadProbe.Multipart.Reading
import UploadProbe.Proofs.Percent

/-!
# Reading forms back

A server that knows the boundary finds the head and the data of a form in its octets. The head is
two lines: no file name can end the first one, because the end of a line in a name has a backslash
between its two octets. The first line tells the file name exactly, and the name of the form field
as it stands between quotes or behind its mark.
-/

namespace UploadProbe.FormPart

section Cutting

variable {Element : Type} [DecidableEq Element]

@[simp]
theorem behind?_append (beginning text : List Element) :
    behind? beginning (beginning ++ text) = some text := by
  induction beginning with
  | nil => rfl
  | cons expected beginning inductionHypothesis => simpa [behind?] using inductionHypothesis

@[simp]
theorem before?_append (text ending : List Element) :
    before? ending (text ++ ending) = some text := by
  simp [before?]

end Cutting

/-- An octet is part of a line unless it ends the line together with the next one. -/
theorem cutLine_cons {octet : UInt8} {rest : Bytes}
    (inside : octet ≠ 0x0D ∨ rest.head? ≠ some 0x0A) :
    cutLine (octet :: rest) = (octet :: (cutLine rest).1, (cutLine rest).2) := by
  rw [cutLine]
  rintro behind rfl rfl
  simp at inside

/-- Octets without a line feed are part of a line, unless one follows. -/
theorem cutLine_append {octets rest : Bytes} (noFeed : 0x0A ∉ octets)
    (noneFollows : rest.head? ≠ some 0x0A) :
    cutLine (octets ++ rest) = (octets ++ (cutLine rest).1, (cutLine rest).2) := by
  induction octets with
  | nil => rfl
  | cons octet octets inductionHypothesis =>
      rw [List.mem_cons, not_or] at noFeed
      have inside : (octets ++ rest).head? ≠ some 0x0A := by
        cases octets with
        | nil => exact noneFollows
        | cons next octets =>
            have different := (List.mem_cons.not.mp noFeed.2)
            rw [not_or] at different
            simpa using Ne.symm different.1
      rw [List.cons_append, cutLine_cons (Or.inr inside), inductionHypothesis noFeed.2]
      rfl

theorem feed_mem_encode {text : Text} (member : 0x0A ∈ Utf8.encode text) : '\n' ∈ text := by
  rw [Utf8.encode, List.mem_flatMap] at member
  rcases member with ⟨c, inText, member⟩
  rw [Utf8.eq_ofNat_of_mem_encodeChar member (by decide)] at inText
  exact inText

theorem cutLine_encode_append {text : Text} {rest : Bytes} (noFeed : '\n' ∉ text)
    (noneFollows : rest.head? ≠ some 0x0A) :
    cutLine (Utf8.encode text ++ rest) =
      (Utf8.encode text ++ (cutLine rest).1, (cutLine rest).2) :=
  cutLine_append (fun member => noFeed (feed_mem_encode member)) noneFollows

theorem escape_of_special {c : Char} (special : c = '\\' ∨ c = '"' ∨ c = '\r' ∨ c = '\n') :
    escape c = ['\\', c] := by
  rcases special with rfl | rfl | rfl | rfl <;> rfl

theorem escape_of_plain {c : Char} (plain : ¬(c = '\\' ∨ c = '"' ∨ c = '\r' ∨ c = '\n')) :
    escape c = [c] := by
  rw [not_or, not_or, not_or] at plain
  simp [escape, plain]

/-- A name is read back from between its quotes, whatever follows them. -/
theorem readQuoted?_escape (name rest : Text) :
    readQuoted? (name.flatMap escape ++ '"' :: rest) = some (name, rest) := by
  induction name with
  | nil => rfl
  | cons c name inductionHypothesis =>
      rw [List.flatMap_cons, List.append_assoc]
      by_cases special : c = '\\' ∨ c = '"' ∨ c = '\r' ∨ c = '\n'
      · rw [escape_of_special special, List.cons_append, List.cons_append, readQuoted?]
        simp [inductionHypothesis]
      · rw [escape_of_plain special, List.cons_append, readQuoted?]
        · simp [inductionHypothesis]
        · rintro rfl
          simp at special
        · rintro behind following rfl
          simp at special

theorem head?_escaped (name : Text) (rest : Bytes) (noneFollows : rest.head? ≠ some 0x0A) :
    (Utf8.encode (name.flatMap escape) ++ rest).head? ≠ some 0x0A := by
  cases name with
  | nil => exact noneFollows
  | cons c name =>
      rw [List.flatMap_cons]
      by_cases special : c = '\\' ∨ c = '"' ∨ c = '\r' ∨ c = '\n'
      · rw [escape_of_special special, List.cons_append, Utf8.encode_cons]
        simp [show String.utf8EncodeChar '\\' = [0x5C] from rfl]
      · rw [escape_of_plain special, List.singleton_append, Utf8.encode_cons, List.append_assoc]
        intro begins
        have member : 0x0A ∈ String.utf8EncodeChar c := by
          cases encoded : String.utf8EncodeChar c with
          | nil => exact absurd encoded String.utf8EncodeChar_ne_nil
          | cons first further =>
              rw [encoded] at begins
              simp only [List.cons_append, List.head?_cons, Option.some.injEq] at begins
              exact begins ▸ List.mem_cons_self
        rw [Utf8.eq_ofNat_of_mem_encodeChar member (by decide)] at special
        exact special (by decide)

/-- A name between its quotes is part of a line, unless a line feed follows. -/
theorem cutLine_escaped (name : Text) (rest : Bytes) (noneFollows : rest.head? ≠ some 0x0A) :
    cutLine (Utf8.encode (name.flatMap escape) ++ rest) =
      (Utf8.encode (name.flatMap escape) ++ (cutLine rest).1, (cutLine rest).2) := by
  induction name with
  | nil => rfl
  | cons c name inductionHypothesis =>
      have noneBehind := head?_escaped name rest noneFollows
      rw [List.flatMap_cons, Utf8.encode_append, List.append_assoc]
      by_cases feed : c = '\n'
      · subst feed
        rw [show Utf8.encode (escape '\n') = [0x5C, 0x0A] from rfl, List.cons_append,
          List.cons_append, cutLine_cons (Or.inl (by decide)), cutLine_cons (Or.inl (by decide)),
          List.nil_append, inductionHypothesis]
        rfl
      · have noFeed : '\n' ∉ escape c := by
          by_cases special : c = '\\' ∨ c = '"' ∨ c = '\r' ∨ c = '\n'
          · simpa [escape_of_special special] using Ne.symm feed
          · simpa [escape_of_plain special] using Ne.symm feed
        rw [cutLine_encode_append noFeed noneBehind, inductionHypothesis, List.append_assoc]

theorem cutAt_of_notMem {stop : Char} {text : Text} (clear : stop ∉ text) (rest : Text) :
    Text.cutAt (· = stop) (text ++ stop :: rest) = (text, some rest) := by
  induction text with
  | nil => simp [Text.cutAt]
  | cons c text inductionHypothesis =>
      rw [List.mem_cons, not_or] at clear
      rw [List.cons_append, Text.cutAt, if_neg (by simpa using Ne.symm clear.1),
        inductionHypothesis clear.2]

theorem span_of_notMem {stop : Char} {text : Text} (clear : stop ∉ text) (rest : Text) :
    Text.span (· ≠ stop) (text ++ stop :: rest) = (text, stop :: rest) := by
  induction text with
  | nil => simp [Text.span]
  | cons c text inductionHypothesis =>
      rw [List.mem_cons, not_or] at clear
      have behind := inductionHypothesis clear.2
      rw [Text.span, Prod.mk.injEq] at behind
      have passes : decide (c ≠ stop) = true := by simpa using Ne.symm clear.1
      simp only [Text.span, List.cons_append, List.takeWhile_cons, List.dropWhile_cons, passes,
        if_true, behind]

/-- The name of a form field as its parameter tells it: a name between quotes bears no mark, even if
an octet of it is encoded. -/
def toldField (field : Text) : Text :=
  if standsInQuotes field then Percent.encode Percent.segmentSet field else field

/-- Whether a name is a single ASCII character that has to be encoded. -/
def IsLoneEncoded (field : Text) : Prop :=
  ∃ c, field = [c] ∧ c < '\x80' ∧ Percent.segmentSet c = true

/-- Exactly the names that are a single encoded character are not told as they are. -/
theorem toldField_eq_iff (field : Text) : toldField field = field ↔ ¬IsLoneEncoded field := by
  unfold toldField standsInQuotes IsLoneEncoded
  split
  · rename_i c
    by_cases encoded : Percent.segmentSet c = true
    · by_cases ascii : c < '\x80'
      · have longer := Percent.encode_singleton_ne encoded
        simp [ascii, encoded, longer]
      · simp [ascii, encoded]
    · have plain : [c].any Percent.segmentSet = false := by simpa using encoded
      rw [Percent.encode_eq_self plain]
      simp [encoded]
  · rename_i notSingle
    have notLone : ¬∃ c, field = [c] ∧ c < '\x80' ∧ Percent.segmentSet c = true := by
      rintro ⟨c, single, -⟩
      exact notSingle c single
    by_cases plain : field.any Percent.segmentSet = false
    · rw [Percent.encode_eq_self plain]
      simp [notLone]
    · simp [notLone, plain]

theorem toldField_of_isLoneEncoded {field : Text} (lone : IsLoneEncoded field) :
    toldField field = Percent.encode Percent.segmentSet field := by
  rcases lone with ⟨c, rfl, ascii, -⟩
  simp [toldField, standsInQuotes, ascii]

theorem readField?_fieldParameter (field rest : Text) :
    readField? (fieldParameter field ++ ';' :: ' ' :: rest) =
      some (toldField field, ';' :: ' ' :: rest) := by
  rw [fieldParameter, toldField]
  split
  · have noQuote := Percent.notMem_encode (c := '"') rfl (by decide) field
    rw [readField?, List.append_assoc, List.append_assoc, behind?_append]
    simp only [List.singleton_append, cutAt_of_notMem noQuote]
  · have noBlank := Percent.notMem_encode (c := ' ') rfl (by decide) field
    have clear : ' ' ∉ Percent.encode Percent.segmentSet field ++ [';'] := by
      simpa using noBlank
    have cut := span_of_notMem clear rest
    have decoded := @Percent.decode_encode Percent.segmentSet rfl field []
    rw [readField?, List.append_assoc]
    have unquoted : behind? "name=\"".toList ("name*=utf-8\'\'".toList ++
        (Percent.encode Percent.segmentSet field ++ ';' :: ' ' :: rest)) = none := rfl
    rw [List.append_assoc] at cut
    rw [unquoted, behind?_append]
    simp only [Option.bind_eq_bind, Option.bind_some]
    rw [show Percent.encode Percent.segmentSet field ++ ';' :: ' ' :: rest =
      Percent.encode Percent.segmentSet field ++ ([';'] ++ ' ' :: rest) from rfl, cut]
    rw [List.append_nil, show Percent.decode [] = [] from rfl, List.append_nil] at decoded
    simp [decoded]

theorem quoted_ne_marked (quoted encoded : Text) :
    "name=\"".toList ++ quoted ≠ "name*=utf-8\'\'".toList ++ encoded := by
  intro equal
  have fifth : some '=' = some '*' := congrArg (fun text => (text.drop 4).head?) equal
  exact absurd fifth (by decide)

theorem fieldParameter_injective : Function.Injective fieldParameter := by
  intro left right same
  unfold fieldParameter at same
  split at same <;> split at same
  · rw [List.append_cancel_right_eq, List.append_cancel_left_eq] at same
    exact Percent.encode_injective rfl same
  · rw [List.append_assoc] at same
    exact absurd same (quoted_ne_marked _ _)
  · rw [List.append_assoc] at same
    exact absurd same.symm (quoted_ne_marked _ _)
  · rw [List.append_cancel_left_eq] at same
    exact Percent.encode_injective rfl same

theorem readDisposition?_disposition (part : FormPart) :
    readDisposition? part.disposition = some (toldField part.field, part.fileName) := by
  have field := readField?_fieldParameter part.field (fileNameParameter part.fileName)
  have name := readQuoted?_escape part.fileName []
  unfold readDisposition? disposition
  rw [List.append_assoc, List.append_assoc, behind?_append]
  simp only [Option.bind_eq_bind, Option.bind_some]
  rw [show fieldParameter part.field ++ ("; ".toList ++ fileNameParameter part.fileName) =
    fieldParameter part.field ++ ';' :: ' ' :: fileNameParameter part.fileName from rfl, field]
  simp only [Option.bind_some]
  rw [show ';' :: ' ' :: fileNameParameter part.fileName =
    "; filename=\"".toList ++ (part.fileName.flatMap escape ++ ['"']) from by
      unfold fileNameParameter
      rw [List.append_assoc]
      rfl, behind?_append]
  simp only [Option.bind_some, name]
  rfl

/-- The first line of a head tells the field and the file name, and nothing else. -/
theorem disposition_injective {left right : FormPart}
    (same : left.disposition = right.disposition) :
    left.field = right.field ∧ left.fileName = right.fileName := by
  have read := congrArg readDisposition? same
  rw [readDisposition?_disposition, readDisposition?_disposition, Option.some.injEq,
    Prod.mk.injEq] at read
  unfold disposition at same
  rw [read.2, List.append_cancel_right_eq, List.append_cancel_right_eq,
    List.append_cancel_left_eq] at same
  exact ⟨fieldParameter_injective same, read.2⟩

theorem feed_notMem_fieldParameter (field : Text) : '\n' ∉ fieldParameter field := by
  have clear := Percent.notMem_encode (c := '\n') rfl (by decide) field
  unfold fieldParameter
  split
  · rw [List.mem_append, List.mem_append]
    rintro ((name | encoded) | quote)
    · exact absurd name (by decide)
    · exact clear encoded
    · exact absurd quote (by decide)
  · rw [List.mem_append]
    rintro (name | encoded)
    · exact absurd name (by decide)
    · exact clear encoded

/-- What stands in front of the file name in the first line of a head. -/
def fieldBeginning (field : Text) : Text :=
  "Content-Disposition: form-data; ".toList ++ fieldParameter field ++ "; filename=\"".toList

theorem feed_notMem_fieldBeginning (field : Text) : '\n' ∉ fieldBeginning field := by
  unfold fieldBeginning
  rw [List.mem_append, List.mem_append]
  rintro ((name | parameter) | quote)
  · exact absurd name (by decide)
  · exact feed_notMem_fieldParameter field parameter
  · exact absurd quote (by decide)

theorem disposition_eq (part : FormPart) :
    part.disposition = fieldBeginning part.field ++ (part.fileName.flatMap escape ++ ['"']) := by
  unfold disposition fieldBeginning fileNameParameter
  simp only [List.append_assoc]
  rfl

/-- The line that tells the field and the file name is one line, whatever they are. -/
theorem cutLine_disposition (part : FormPart) {rest : Bytes}
    (noneFollows : rest.head? ≠ some 0x0A) :
    cutLine (Utf8.encode part.disposition ++ rest) =
      (Utf8.encode part.disposition ++ (cutLine rest).1, (cutLine rest).2) := by
  have quote : Utf8.encode ['"'] = [0x22] := rfl
  have quoteBegins : (Utf8.encode ['"'] ++ rest).head? ≠ some 0x0A := by simp [quote]
  rw [disposition_eq, Utf8.encode_append, Utf8.encode_append, List.append_assoc,
    List.append_assoc, cutLine_encode_append (feed_notMem_fieldBeginning part.field)
      (head?_escaped part.fileName _ quoteBegins), cutLine_escaped _ _ quoteBegins,
    cutLine_encode_append (by decide) noneFollows]
  simp only [List.append_assoc]

/-- Whether some octets are a line: nothing in them ends it. -/
def IsLine (octets : Bytes) : Prop :=
  cutLine octets = (octets, none)

theorem isLine_disposition (part : FormPart) : IsLine (Utf8.encode part.disposition) := by
  have line := @cutLine_disposition part [] (by simp)
  simpa [IsLine, cutLine] using line

theorem isLine_of_noFeed {octets : Bytes} (noFeed : 0x0A ∉ octets) : IsLine octets := by
  have line := @cutLine_append octets [] noFeed (by simp)
  simpa [IsLine, cutLine] using line

/-- A line is found in front of the first end of a line. -/
theorem IsLine.cutLine_append {line : Bytes} (isLine : IsLine line) (rest : Bytes) :
    cutLine (line ++ (Bytes.ofAscii lineEnd ++ rest)) = (line, some rest) := by
  induction line with
  | nil => rfl
  | cons octet line inductionHypothesis =>
      have inside : octet ≠ 0x0D ∨ line.head? ≠ some 0x0A := by
        by_contra ends
        rw [not_or, not_not, not_not] at ends
        rcases line with _ | ⟨next, line⟩
        · simp at ends
        · rcases ends with ⟨rfl, follows⟩
          rw [List.head?_cons, Option.some.injEq] at follows
          subst follows
          simp [IsLine, cutLine] at isLine
      have stillInside : octet ≠ 0x0D ∨
          (line ++ (Bytes.ofAscii lineEnd ++ rest)).head? ≠ some 0x0A := by
        rcases line with _ | ⟨next, line⟩
        · exact Or.inr (by simp [Bytes.ofAscii, Bytes.ascii, lineEnd])
        · simpa using inside
      rw [IsLine, cutLine_cons inside, Prod.mk.injEq, List.cons.injEq] at isLine
      rw [List.cons_append, cutLine_cons stillInside,
        inductionHypothesis (Prod.ext isLine.1.2 isLine.2)]

/-- The octets of a form whose head has two lines. -/
def layout (boundary : Text) (dispositionLine typeLine data : Bytes) : Bytes :=
  Bytes.ofAscii ("--".toList ++ boundary ++ lineEnd) ++
    (dispositionLine ++ (Bytes.ofAscii lineEnd ++
      (typeLine ++ (Bytes.ofAscii lineEnd ++ (Bytes.ofAscii lineEnd ++ data))))) ++
    Bytes.ofAscii (lineEnd ++ "--".toList ++ boundary ++ "--".toList ++ lineEnd)

/-- The line that tells the content type. -/
def typeLine (mediaType : Bytes) : Bytes :=
  Bytes.ofAscii "Content-Type: ".toList ++ mediaType

theorem isLine_typeLine {mediaType : Bytes} (noFeed : 0x0A ∉ mediaType) :
    IsLine (typeLine mediaType) := by
  apply isLine_of_noFeed
  unfold typeLine
  rw [List.mem_append]
  rintro (name | inside)
  · exact absurd name (by decide)
  · exact noFeed inside

theorem framed_eq_layout (boundary : Boundary) (part : FormPart) (data : Bytes) :
    part.framed boundary data =
      layout boundary.text (Utf8.encode part.disposition) (typeLine part.mediaType) data := by
  have lineEnds : Utf8.encode lineEnd = Bytes.ofAscii lineEnd := rfl
  have typeBegins : Utf8.encode "Content-Type: ".toList =
      Bytes.ofAscii "Content-Type: ".toList := rfl
  have twice : Bytes.ofAscii (lineEnd ++ lineEnd) =
      Bytes.ofAscii lineEnd ++ Bytes.ofAscii lineEnd := rfl
  unfold framed opening closing layout head typeLine
  rw [Utf8.encode_append, Utf8.encode_append, lineEnds, typeBegins, twice]
  simp only [List.append_assoc]

/-- The two lines and the data of a form are determined by its octets and the boundary. -/
theorem layout_injective {boundary : Text} {first second data first' second' data' : Bytes}
    (lines : IsLine first ∧ IsLine second) (lines' : IsLine first' ∧ IsLine second')
    (same : layout boundary first second data = layout boundary first' second' data') :
    first = first' ∧ second = second' ∧ data = data' := by
  unfold layout at same
  rw [List.append_cancel_right_eq, List.append_cancel_left_eq] at same
  have firstCut := congrArg cutLine same
  rw [lines.1.cutLine_append, lines'.1.cutLine_append, Prod.mk.injEq, Option.some.injEq] at firstCut
  have secondCut := congrArg cutLine firstCut.2
  rw [lines.2.cutLine_append, lines'.2.cutLine_append, Prod.mk.injEq, Option.some.injEq,
    List.append_cancel_left_eq] at secondCut
  exact ⟨firstCut.1, secondCut.1, secondCut.2⟩

/-- A server that knows the boundary reads in a form what its head tells, and its data. -/
theorem read?_framed (boundary : Boundary) {part : FormPart} (noFeed : 0x0A ∉ part.mediaType)
    (data : Bytes) :
    read? boundary (part.framed boundary data) =
      some (⟨toldField part.field, part.fileName, part.mediaType⟩, data) := by
  have first := (isLine_disposition part).cutLine_append
  have second := (isLine_typeLine noFeed).cutLine_append
  rw [framed_eq_layout]
  unfold layout read? closing
  rw [List.append_assoc (Bytes.ofAscii _), behind?_append]
  simp only [Option.bind_eq_bind, Option.bind_some]
  rw [before?_append]
  simp only [Option.bind_some, first, second, behind?_append, Utf8.decode?_encode,
    readDisposition?_disposition]
  unfold typeLine
  rw [behind?_append]
  rfl

end UploadProbe.FormPart
