import Mathlib
import UploadProbe.Proofs.ReplyGrammar

/-!
# Reading heads of replies

The reader of heads finds in the octets of a head exactly what it tells, whatever follows it, unless
the head exceeds a limit: then it is refused as too large. Nothing else can happen to a head that is
one. The limits are those on the octets of a head, on the number of its fields and on the length of
a name.
-/

namespace UploadProbe.ReplyHead.Reading

/-- Whether some octets take the reader from one place to another, whatever follows them, unless
the head becomes too large within them. -/
def Passes (octets : Bytes) (before after : Reading) : Prop :=
  ∀ size < sizeLimit, ∀ rest, scan step { before with size } (octets ++ rest) =
    if size + octets.length < sizeLimit then
      scan step { after with size := size + octets.length } rest
    else .refused .tooLarge

section Passing

variable {octets further : Bytes} {before after : Reading}

theorem passes_nil (reading : Reading) : Passes [] reading reading := by
  intro size small rest
  rw [List.length_nil, Nat.add_zero, if_pos small]
  rfl

theorem passes_octet {b : UInt8}
    (moves : ∀ size, stepAt { before with size } b = .next { after with size }) :
    Passes [b] before after := by
  intro size small rest
  have moved := moves (size + 1)
  simp only [List.singleton_append, scan, step, moved, List.length_singleton]
  by_cases fits : size + 1 < sizeLimit
  · rw [if_pos fits, if_neg (by omega)]
  · rw [if_neg fits, if_pos (by omega)]

theorem Passes.append {between : Reading} (first : Passes octets before between)
    (second : Passes further between after) : Passes (octets ++ further) before after := by
  intro size small rest
  rw [List.append_assoc, first size small, List.length_append]
  by_cases fits : size + octets.length < sizeLimit
  · rw [if_pos fits, second _ fits, Nat.add_assoc]
  · rw [if_neg fits, if_neg (by omega)]

theorem Passes.cons {b : UInt8} (between : Reading)
    (moves : ∀ size, stepAt { before with size } b = .next { between with size })
    (behind : Passes octets between after) : Passes (b :: octets) before after :=
  (passes_octet moves).append behind

end Passing

def inVersion (matched : Nat) : Reading :=
  ⟨.version matched, 0, 0, [], 0⟩

def inFirstLine (place : Place) (status : Nat) : Reading :=
  ⟨place, 1, status, [], 0⟩

theorem passes_version :
    Passes (Bytes.ofAscii "HTTP/1.1 ".toList) fresh (inFirstLine (.status 0) 0) := by
  show Passes [0x48, 0x54, 0x54, 0x50, 0x2F, 0x31, 0x2E, 0x31, 0x20] fresh _
  apply Passes.cons (inVersion 1) (fun _ => rfl)
  apply Passes.cons (inVersion 2) (fun _ => rfl)
  apply Passes.cons (inVersion 3) (fun _ => rfl)
  apply Passes.cons (inVersion 4) (fun _ => rfl)
  apply Passes.cons (inVersion 5) (fun _ => rfl)
  apply Passes.cons (inVersion 6) (fun _ => rfl)
  apply Passes.cons (inVersion 7) (fun _ => rfl)
  apply Passes.cons (inFirstLine .behindVersion 0) (fun _ => rfl)
  exact passes_octet fun _ => rfl

theorem isDigit_ofNat {digit : Nat} (small : digit < 10) :
    Bytes.isDigit (UInt8.ofNat (0x30 + digit)) = true ∧
      (UInt8.ofNat (0x30 + digit)).toNat - 0x30 = digit := by
  interval_cases digit <;> exact ⟨rfl, rfl⟩

theorem passes_digit {digits digit : Nat} (small : digit < 10) (status : Nat) :
    Passes [UInt8.ofNat (0x30 + digit)] (inFirstLine (.status digits) status)
      (inFirstLine (if digits = 2 then .behindStatus else .status (digits + 1))
        (status * 10 + digit)) := by
  apply passes_octet
  intro size
  rcases isDigit_ofNat small with ⟨isDigit, value⟩
  simp only [stepAt, stepFirstLine, inFirstLine, isDigit, value, moveTo, Bool.not_true,
    Bool.false_eq_true, if_false]

theorem ofNat_three_digits {number : Nat} (least : 100 ≤ number) (greatest : number ≤ 999) :
    Bytes.ofAscii (Text.ofNat number) =
      [UInt8.ofNat (0x30 + number / 100), UInt8.ofNat (0x30 + number / 10 % 10),
        UInt8.ofNat (0x30 + number % 10)] := by
  have every : ∀ small : Fin 1000, 100 ≤ small.val →
      Bytes.ofAscii (Text.ofNat small.val) =
        [UInt8.ofNat (0x30 + small.val / 100), UInt8.ofNat (0x30 + small.val / 10 % 10),
          UInt8.ofNat (0x30 + small.val % 10)] := by decide +kernel
  exact every ⟨number, by omega⟩ least

theorem passes_status {status : Nat} (least : 100 ≤ status) (greatest : status ≤ 999) :
    Passes (Bytes.ofAscii (Text.ofNat status)) (inFirstLine (.status 0) 0)
      (inFirstLine .behindStatus status) := by
  have whole : ((0 * 10 + status / 100) * 10 + status / 10 % 10) * 10 + status % 10 = status := by
    omega
  have first : Passes [UInt8.ofNat (0x30 + status / 100)] (inFirstLine (.status 0) 0) _ :=
    passes_digit (by omega) 0
  have second := @passes_digit 1 (status / 10 % 10) (by omega) (0 * 10 + status / 100)
  have third := @passes_digit 2 (status % 10) (by omega)
    ((0 * 10 + status / 100) * 10 + status / 10 % 10)
  rw [whole] at third
  rw [ofNat_three_digits least greatest]
  exact (first.append second).append third

theorem passes_reason {reason : Bytes} (valueBytes : ∀ b ∈ reason, isValueByte b = true)
    (status : Nat) : Passes reason (inFirstLine .reason status) (inFirstLine .reason status) := by
  induction reason with
  | nil => exact passes_nil _
  | cons b reason inductionHypothesis =>
      have valueByte := valueBytes b List.mem_cons_self
      rcases isValueByte_ne valueByte with ⟨noReturn, noFeed⟩
      refine Passes.cons _ (fun size => ?_)
        (inductionHypothesis fun b member => valueBytes b (List.mem_cons_of_mem _ member))
      simp only [stepAt, stepFirstLine, inFirstLine, if_neg noReturn, if_neg noFeed, valueByte,
        if_true, moveTo]

def atLine (status : Nat) (fields : List ReplyField) : Reading :=
  ⟨.lineStart, 1, status, fields, 0⟩

theorem passes_firstLine (head : HeadLines) :
    Passes head.firstLine fresh (atLine head.status []) := by
  have ended : ∀ place, place = .behindStatus ∨ place = .reason →
      Passes ReplyWriting.lineEnd (inFirstLine place head.status) (atLine head.status []) := by
    rintro place (rfl | rfl)
    · exact Passes.cons (inFirstLine .firstReturn head.status) (fun _ => rfl)
        (passes_octet fun _ => rfl)
    · exact Passes.cons (inFirstLine .firstReturn head.status) (fun _ => rfl)
        (passes_octet fun _ => rfl)
  apply passes_version.append
  apply (passes_status head.least head.greatest).append
  have reasonBytes := head.reasonBytes
  rw [HeadLines.reasonOctets]
  cases reasoned : head.reason with
  | none => exact ended .behindStatus (Or.inl rfl)
  | some reason =>
      rw [reasoned] at reasonBytes
      exact Passes.cons (inFirstLine .reason head.status) (fun _ => rfl)
        ((passes_reason reasonBytes head.status).append (ended .reason (Or.inr rfl)))

section Fields

variable (status : Nat) (fields : List ReplyField)

def inField (place : Place) : Reading :=
  ⟨place, 1, status, fields, 0⟩

theorem passes_name {name : Bytes} (nameBytes : ∀ b ∈ name, isNameByte b = true)
    (read : Bytes) :
    Passes name (inField status fields (.name read))
      (inField status fields (.name (name.reverse ++ read))) := by
  induction name generalizing read with
  | nil => exact passes_nil _
  | cons b name inductionHypothesis =>
      have nameByte := nameBytes b List.mem_cons_self
      have noColon := (isNameByte_ne nameByte).2.2
      rw [List.reverse_cons, List.append_assoc, List.singleton_append]
      refine Passes.cons (inField status fields (.name (b :: read))) (fun size => ?_)
        (inductionHypothesis (fun b member => nameBytes b (List.mem_cons_of_mem _ member)) _)
      simp only [stepAt, stepField, inField, if_neg noColon, nameByte, if_true, moveTo]

theorem passes_gap {blanks : Bytes} (allBlank : ∀ b ∈ blanks, isBlank b = true)
    (name : Bytes) :
    Passes blanks (inField status fields (.gap name)) (inField status fields (.gap name)) := by
  induction blanks with
  | nil => exact passes_nil _
  | cons b blanks inductionHypothesis =>
      have blank := allBlank b List.mem_cons_self
      refine Passes.cons _ (fun size => ?_)
        (inductionHypothesis fun b member => allBlank b (List.mem_cons_of_mem _ member))
      simp only [stepAt, stepField, inField, blank, if_true, moveTo]

theorem passes_value {value : Bytes} (valueBytes : ∀ b ∈ value, isValueByte b = true)
    (name read : Bytes) :
    Passes value (inField status fields (.value name read))
      (inField status fields (.value name (value.reverse ++ read))) := by
  induction value generalizing read with
  | nil => exact passes_nil _
  | cons b value inductionHypothesis =>
      have valueByte := valueBytes b List.mem_cons_self
      rcases isValueByte_ne valueByte with ⟨noReturn, noFeed⟩
      rw [List.reverse_cons, List.append_assoc, List.singleton_append]
      refine Passes.cons (inField status fields (.value name (b :: read))) (fun size => ?_)
        (inductionHypothesis (fun b member => valueBytes b (List.mem_cons_of_mem _ member)) _)
      simp only [stepAt, stepField, inField, if_neg noReturn, if_neg noFeed, valueByte, if_true,
        moveTo]

theorem passes_fieldEnd {place : Place} {name read : Bytes}
    (behindColon : (place = .gap name ∧ read = []) ∨ place = .value name read) :
    Passes ReplyWriting.lineEnd (inField status fields place)
      (atLine status
        (⟨name.reverse.map Bytes.lowerByte, (read.dropWhile isBlank).reverse⟩ :: fields)) := by
  refine Passes.cons (inField status fields (.valueReturn name read)) ?_
    (passes_octet fun _ => rfl)
  intro size
  rcases behindColon with ⟨rfl, rfl⟩ | rfl
  · rfl
  · rfl

/-- Behind the colon, the blanks in front of a value are passed over, and those behind it are taken
off. -/
theorem passes_behindColon {value : Bytes} (valueBytes : ∀ b ∈ value, isValueByte b = true)
    (name : Bytes) :
    Passes (value ++ ReplyWriting.lineEnd) (inField status fields (.gap name))
      (atLine status
        (⟨name.reverse.map Bytes.lowerByte, FieldLine.trim value⟩ :: fields)) := by
  have allBlank : ∀ b ∈ value.takeWhile isBlank, isBlank b = true :=
    fun b member => List.mem_takeWhile_imp member
  have split := List.takeWhile_append_dropWhile (p := isBlank) (l := value)
  rw [FieldLine.trim, ← split, List.append_assoc, split]
  apply (passes_gap status fields allBlank name).append
  cases text : value.dropWhile isBlank with
  | nil => exact passes_fieldEnd status fields (Or.inl ⟨rfl, rfl⟩)
  | cons b rest =>
      have member : ∀ octet ∈ b :: rest, octet ∈ value := by
        intro octet member
        rw [← text] at member
        exact (List.dropWhile_sublist _).subset member
      have valueByte := valueBytes b (member b List.mem_cons_self)
      rcases isValueByte_ne valueByte with ⟨noReturn, noFeed⟩
      have noBlank : isBlank b = false := by
        have first := List.head?_dropWhile_not isBlank value
        rw [text] at first
        simpa using first
      refine Passes.cons (inField status fields (.value name [b])) (fun size => ?_)
        (((passes_value status fields
          (fun octet inside => valueBytes octet (member octet (List.mem_cons_of_mem _ inside)))
          name [b]).append (passes_fieldEnd status fields
            (Or.inr (by rw [List.reverse_cons])))))
      simp only [stepAt, stepField, inField, noBlank, Bool.false_eq_true, if_false,
        if_neg noReturn, if_neg noFeed, valueByte, if_true, moveTo]

theorem stepAt_atLine {b : UInt8} (nameByte : isNameByte b = true) (size : Nat) :
    stepAt { atLine status fields with size } b =
      if fieldLimit ≤ fields.length then .fail .tooLarge
      else .next { inField status fields (.name [b]) with size } := by
  rcases isNameByte_ne nameByte with ⟨noReturn, noFeed, -⟩
  simp only [stepAt, stepLineStart, atLine, if_neg noReturn, if_neg noFeed, nameByte,
    Bool.not_true, Bool.false_eq_true, if_false, moveTo, inField]
  rfl

theorem passes_fieldLine (line : FieldLine) (fewer : fields.length < fieldLimit) :
    Passes line.octets (atLine status fields) (atLine status (line.field :: fields)) := by
  have nameBytes := line.nameBytes
  have behind := passes_behindColon status fields line.valueBytes line.name.reverse
  rw [List.reverse_reverse] at behind
  rw [FieldLine.octets, FieldLine.field, List.append_assoc]
  cases named : line.name with
  | nil => exact absurd named line.named
  | cons b name =>
      rw [named] at nameBytes behind
      have nameByte := nameBytes b List.mem_cons_self
      have name := passes_name status fields
        (fun octet member => nameBytes octet (List.mem_cons_of_mem b member)) [b]
      rw [← List.reverse_cons] at name
      apply Passes.cons (inField status fields (.name [b]))
      · intro size
        rw [stepAt_atLine status fields nameByte, if_neg (by omega)]
      · exact name.append (Passes.cons _ (fun _ => rfl) behind)

/-- A head with too many fields is refused at the first octet of the one that is too many. -/
theorem scan_fieldLine_refused (line : FieldLine) (many : fieldLimit ≤ fields.length) (size : Nat)
    (rest : Bytes) :
    scan step { atLine status fields with size } (line.octets ++ rest) = .refused .tooLarge := by
  cases named : line.name with
  | nil => exact absurd named line.named
  | cons b name =>
      have nameByte := line.nameBytes b (by rw [named]; exact List.mem_cons_self)
      have stepped := stepAt_atLine status fields nameByte (size + 1)
      rw [if_pos many] at stepped
      rw [FieldLine.octets, named]
      simp only [List.cons_append, scan, step]
      rw [show stepAt { atLine status fields with size := size + 1 } b = _ from stepped]

/-- The fields of a head are read one by one, unless there are too many or they are too long. -/
theorem scan_fieldLines (lines : List FieldLine) (few : fields.length ≤ fieldLimit) (size : Nat)
    (small : size < sizeLimit) (rest : Bytes) :
    scan step { atLine status fields with size } (lines.flatMap FieldLine.octets ++ rest) =
      if size + (lines.flatMap FieldLine.octets).length < sizeLimit ∧
          fields.length + lines.length ≤ fieldLimit then
        scan step { atLine status ((lines.map FieldLine.field).reverse ++ fields) with
          size := size + (lines.flatMap FieldLine.octets).length } rest
      else .refused .tooLarge := by
  induction lines generalizing fields size with
  | nil =>
      rw [if_pos ⟨small, few⟩]
      rfl
  | cons line lines inductionHypothesis =>
      rw [List.flatMap_cons, List.append_assoc, List.length_append, List.length_cons]
      by_cases fewer : fields.length < fieldLimit
      · rw [passes_fieldLine status fields line fewer size small]
        by_cases fits : size + line.octets.length < sizeLimit
        · rw [if_pos fits, inductionHypothesis (line.field :: fields) fewer _ fits]
          simp only [List.length_cons, Nat.add_assoc, Nat.add_comm 1, List.map_cons,
            List.reverse_cons, List.append_assoc, List.singleton_append]
        · rw [if_neg fits, if_neg (by omega)]
      · rw [scan_fieldLine_refused status fields line (by omega), if_neg (by omega)]

end Fields

theorem finish_eq {status : Nat} (least : 100 ≤ status) (place : Place)
    (fields : List ReplyField) (size : Nat) :
    finish ⟨place, 1, status, fields, size⟩ =
      if ∀ field ∈ fields, field.name.length < nameLimit then
        if isInterim status then .next fresh else .done ⟨1, status, fields.reverse⟩
      else .fail .tooLarge := by
  have any : fields.any (nameLimit ≤ ·.name.length) = true ↔
      ¬∀ field ∈ fields, field.name.length < nameLimit := by
    simp [List.any_eq_true]
  have known : ¬status < 100 := by omega
  simp only [finish, known, if_false, any]
  by_cases short : ∀ field ∈ fields, field.name.length < nameLimit
  · rw [if_neg (not_not.mpr short), if_pos short]
  · rw [if_pos short, if_neg short]

theorem scan_lineEnd {status : Nat} (least : 100 ≤ status) (fields : List ReplyField)
    (size : Nat) (rest : Bytes) :
    scan step { atLine status fields with size } (ReplyWriting.lineEnd ++ rest) =
      if size + 1 < sizeLimit ∧ ∀ field ∈ fields, field.name.length < nameLimit then
        if isInterim status then scan step fresh rest
        else .complete ⟨1, status, fields.reverse⟩ rest
      else .refused .tooLarge := by
  have returned : stepAt { atLine status fields with size := size + 1 } carriageReturn =
      .next ⟨.lastReturn, 1, status, fields, size + 1⟩ := rfl
  have fed : stepAt ⟨.lastReturn, 1, status, fields, size + 1 + 1⟩ lineFeed =
      finish ⟨.lastReturn, 1, status, fields, size + 1 + 1⟩ := rfl
  rw [show ReplyWriting.lineEnd ++ rest = carriageReturn :: lineFeed :: rest from rfl]
  simp only [scan, step, returned]
  by_cases fits : size + 1 < sizeLimit
  · simp only [if_neg (show ¬sizeLimit ≤ size + 1 by omega), fed, finish_eq least]
    by_cases short : ∀ field ∈ fields, field.name.length < nameLimit
    · have both := And.intro fits short
      rw [if_pos short, if_pos both]
      by_cases interim : isInterim status = true
      · rw [if_pos interim, if_pos interim]
        rfl
      · rw [if_neg interim, if_neg interim]
    · rw [if_neg short, if_neg (fun both => short both.2)]
  · simp only [if_pos (show sizeLimit ≤ size + 1 by omega)]
    rw [if_neg (fun both => fits both.1)]

end UploadProbe.ReplyHead.Reading

namespace UploadProbe.HeadLines

open ReplyHead

/-- Whether a head keeps to all limits. -/
def Fits (head : HeadLines) : Prop :=
  head.octets.length ≤ sizeLimit ∧ head.lines.length ≤ fieldLimit ∧
    ∀ line ∈ head.lines, line.name.length < nameLimit

instance (head : HeadLines) : Decidable head.Fits :=
  inferInstanceAs (Decidable (_ ∧ _ ∧ _))

/-- A head that keeps to all limits is read as what it tells, or passed over if it is interim; any
other is refused as too large. -/
theorem scan_octets (head : HeadLines) (rest : Bytes) :
    scan Reading.step Reading.fresh (head.octets ++ rest) =
      if head.Fits then
        if Reading.isInterim head.status then scan Reading.step Reading.fresh rest
        else .complete head.read rest
      else .refused .tooLarge := by
  have first := Reading.passes_firstLine head 0 (by decide)
    ((head.lines.flatMap FieldLine.octets ++ ReplyWriting.lineEnd) ++ rest)
  have length : head.octets.length =
      head.firstLine.length + (head.lines.flatMap FieldLine.octets).length + 2 := by
    simp [octets, ReplyWriting.lineEnd, Nat.add_assoc]
  have names : (∀ field ∈ (head.lines.map FieldLine.field).reverse ++ [],
      field.name.length < nameLimit) ↔ ∀ line ∈ head.lines, line.name.length < nameLimit := by
    simp [FieldLine.field]
  rw [octets, List.append_assoc,
    show scan Reading.step Reading.fresh _ = _ from first, Nat.zero_add]
  by_cases fitsFirst : head.firstLine.length < sizeLimit
  · rw [if_pos fitsFirst, List.append_assoc,
      Reading.scan_fieldLines _ _ _ (Nat.zero_le _) _ fitsFirst, List.length_nil, Nat.zero_add]
    by_cases fitsLines : head.firstLine.length +
        (head.lines.flatMap FieldLine.octets).length < sizeLimit ∧ head.lines.length ≤ fieldLimit
    · have same : (head.firstLine.length + (head.lines.flatMap FieldLine.octets).length + 1 <
          sizeLimit ∧ ∀ field ∈ (head.lines.map FieldLine.field).reverse ++ [],
            field.name.length < nameLimit) ↔ head.Fits := by
        rw [names, Fits, length]
        constructor
        · rintro ⟨size, short⟩
          exact ⟨by omega, fitsLines.2, short⟩
        · rintro ⟨size, -, short⟩
          exact ⟨by omega, short⟩
      rw [if_pos fitsLines, Reading.scan_lineEnd head.least]
      simp only [List.append_nil] at same ⊢
      simp only [same, List.reverse_reverse, read]
    · rw [if_neg fitsLines, if_neg]
      rintro ⟨size, count, -⟩
      exact fitsLines ⟨by omega, count⟩
  · rw [if_neg fitsFirst, if_neg]
    rintro ⟨size, -⟩
    omega

/-- The heads of interim replies are passed over, and the one behind them is read. -/
theorem read_heads {interims : List HeadLines} {head : HeadLines}
    (interim : ∀ interim ∈ interims, Reading.isInterim interim.status = true)
    (final : Reading.isInterim head.status = false) (rest : Bytes) :
    ReplyHead.read (interims.flatMap octets ++ (head.octets ++ rest)) =
      if (∀ interim ∈ interims, interim.Fits) ∧ head.Fits then .complete head.read rest
      else .refused .tooLarge := by
  rw [ReplyHead.read]
  induction interims with
  | nil => simp [scan_octets, final]
  | cons first interims inductionHypothesis =>
      have passed := interim first List.mem_cons_self
      rw [List.flatMap_cons, List.append_assoc, scan_octets, if_pos passed,
        inductionHypothesis fun other member => interim other (List.mem_cons_of_mem _ member)]
      by_cases fits : first.Fits
      · simp [fits]
      · simp [fits]

end UploadProbe.HeadLines
