import Mathlib
import UploadProbe.Text.Utf8

/-!
# Reading UTF-8 back

The reader finds in the octets of a text exactly the scalar values of that text, whatever follows
them. So strict reading gives the text back, and different texts have different octets. Octets past
ASCII belong to scalar values past ASCII only. Where reading leaves no gap, the octets are those of
the text that is found and no others. Lenient reading shows any octets: as their scalar values, and
with one replacement for every stretch of octets between them that could have become one.
-/

namespace UploadProbe.Utf8

/-- The number of a scalar value keeps clear of the surrogates and of what lies past the last. -/
theorem number_valid (c : Char) :
    c.val.toNat < 0xD800 ∨ (0xDFFF < c.val.toNat ∧ c.val.toNat < 0x110000) :=
  c.valid

theorem lead_ascii {number : Nat} (ascii : number < 128) :
    lead (UInt8.ofNat number) = .whole (Char.ofNat number) := by
  have toNat : (UInt8.ofNat number).toNat = number := by simp; omega
  have below : UInt8.ofNat number < 0x80 := by
    rw [UInt8.lt_iff_toNat_lt, toNat]
    exact ascii
  simp only [lead, below, if_true, toNat]

theorem lead_two {high : Nat} (least : 2 ≤ high) (greatest : high < 32) :
    lead (UInt8.ofNat (high + 192)) = .opens ⟨0, 0x80, 0xBF, high⟩ := by
  interval_cases high <;> rfl

theorem lead_three {high : Nat} (greatest : high < 16) :
    lead (UInt8.ofNat (high + 224)) =
      .opens ⟨1, if high = 0 then 0xA0 else 0x80, if high = 13 then 0x9F else 0xBF, high⟩ := by
  interval_cases high <;> rfl

theorem lead_four {high : Nat} (greatest : high ≤ 4) :
    lead (UInt8.ofNat (high + 240)) =
      .opens ⟨2, if high = 0 then 0x90 else 0x80, if high = 4 then 0x8F else 0xBF, high⟩ := by
  interval_cases high <;> rfl

theorem step_last {begun : Begun} {low : Nat} (last : begun.further = 0) (small : low < 64)
    (least : begun.least.toNat ≤ low + 128) (greatest : low + 128 ≤ begun.greatest.toNat) :
    step (some begun) (UInt8.ofNat (low + 128)) =
      ([some (Char.ofNat (begun.bits * 64 + low))], none) := by
  have toNat : (UInt8.ofNat (low + 128)).toNat = low + 128 := by simp; omega
  have inside : begun.least ≤ UInt8.ofNat (low + 128) ∧
      UInt8.ofNat (low + 128) ≤ begun.greatest := by
    rw [UInt8.le_iff_toNat_le, UInt8.le_iff_toNat_le, toNat]
    exact ⟨least, greatest⟩
  simp only [step, inside, and_self, if_true, last, toNat, Nat.add_sub_cancel]

theorem step_further {begun : Begun} {further low : Nat} (needs : begun.further = further + 1)
    (small : low < 64) (least : begun.least.toNat ≤ low + 128)
    (greatest : low + 128 ≤ begun.greatest.toNat) :
    step (some begun) (UInt8.ofNat (low + 128)) =
      ([], some ⟨further, 0x80, 0xBF, begun.bits * 64 + low⟩) := by
  have toNat : (UInt8.ofNat (low + 128)).toNat = low + 128 := by simp; omega
  have inside : begun.least ≤ UInt8.ofNat (low + 128) ∧
      UInt8.ofNat (low + 128) ≤ begun.greatest := by
    rw [UInt8.le_iff_toNat_le, UInt8.le_iff_toNat_le, toNat]
    exact ⟨least, greatest⟩
  simp only [step, inside, and_self, if_true, needs, toNat, Nat.add_sub_cancel]

theorem scan_two {high low : Nat} (least : 2 ≤ high) (greatest : high < 32) (small : low < 64)
    (rest : Bytes) :
    scan none (UInt8.ofNat (high + 192) :: UInt8.ofNat (low + 128) :: rest) =
      some (Char.ofNat (high * 64 + low)) :: scan none rest := by
  simp only [scan]
  rw [show step none _ = begin _ from rfl, begin, lead_two least greatest]
  simp only [List.nil_append]
  rw [step_last rfl small (by simp) (by simp; omega)]
  rfl

theorem scan_three {high middle low : Nat} (greatest : high < 16) (medium : middle < 64)
    (small : low < 64) (shortest : high = 0 → 32 ≤ middle) (noSurrogate : high = 13 → middle < 32)
    (rest : Bytes) :
    scan none (UInt8.ofNat (high + 224) :: UInt8.ofNat (middle + 128) ::
      UInt8.ofNat (low + 128) :: rest) =
      some (Char.ofNat ((high * 64 + middle) * 64 + low)) :: scan none rest := by
  simp only [scan]
  rw [show step none _ = begin _ from rfl, begin, lead_three greatest]
  simp only [List.nil_append]
  rw [step_further rfl medium (by dsimp only; split <;> simp; omega)
    (by dsimp only; split <;> simp <;> omega)]
  simp only [List.nil_append]
  rw [step_last rfl small (by simp) (by simp; omega)]
  rfl

theorem scan_four {high upper middle low : Nat} (greatest : high ≤ 4) (large : upper < 64)
    (medium : middle < 64) (small : low < 64) (shortest : high = 0 → 16 ≤ upper)
    (within : high = 4 → upper < 16) (rest : Bytes) :
    scan none (UInt8.ofNat (high + 240) :: UInt8.ofNat (upper + 128) ::
      UInt8.ofNat (middle + 128) :: UInt8.ofNat (low + 128) :: rest) =
      some (Char.ofNat (((high * 64 + upper) * 64 + middle) * 64 + low)) :: scan none rest := by
  simp only [scan]
  rw [show step none _ = begin _ from rfl, begin, lead_four greatest]
  simp only [List.nil_append]
  rw [step_further rfl large (by dsimp only; split <;> simp; omega)
    (by dsimp only; split <;> simp <;> omega)]
  simp only [List.nil_append]
  rw [step_further rfl medium (by simp) (by simp; omega)]
  simp only [List.nil_append]
  rw [step_last rfl small (by simp) (by simp; omega)]
  rfl

theorem scan_encodeChar (c : Char) (rest : Bytes) :
    scan none (String.utf8EncodeChar c ++ rest) = some c :: scan none rest := by
  have valid := number_valid c
  have same : Char.ofNat c.val.toNat = c := Char.ofNat_toNat c
  simp only [String.utf8EncodeChar]
  generalize c.val.toNat = number at valid same ⊢
  split
  · simp only [List.cons_append, List.nil_append, scan, step, begin,
      lead_ascii (show number < 128 by omega), same]
  split
  · have whole : number / 64 % 32 * 64 + number % 64 = number := by omega
    simp only [List.cons_append, List.nil_append]
    rw [scan_two (by omega) (by omega) (by omega), whole, same]
  split
  · have whole : (number / 4096 % 16 * 64 + number / 64 % 64) * 64 + number % 64 = number := by
      omega
    simp only [List.cons_append, List.nil_append]
    rw [scan_three (by omega) (by omega) (by omega) (by omega) (by omega), whole, same]
  · have whole : ((number / 262144 % 8 * 64 + number / 4096 % 64) * 64 + number / 64 % 64) * 64 +
        number % 64 = number := by omega
    simp only [List.cons_append, List.nil_append]
    rw [scan_four (by omega) (by omega) (by omega) (by omega) (by omega) (by omega), whole, same]

/-- An ASCII octet is a scalar value of its own. -/
theorem eq_ofNat_of_mem_encodeChar {c : Char} {b : UInt8} (member : b ∈ String.utf8EncodeChar c)
    (ascii : b.toNat < 128) : c = Char.ofNat b.toNat := by
  have valid := number_valid c
  have same : Char.ofNat c.val.toNat = c := Char.ofNat_toNat c
  simp only [String.utf8EncodeChar] at member
  generalize c.val.toNat = number at valid same member
  split at member
  · rename_i small
    rw [List.mem_singleton] at member
    have toNat : b.toNat = number := by
      rw [member]
      simp
      omega
    rw [toNat, same]
  · exfalso
    split at member
    · simp only [List.mem_cons, List.not_mem_nil, or_false] at member
      rcases member with rfl | rfl <;> simp at ascii <;> omega
    split at member
    · simp only [List.mem_cons, List.not_mem_nil, or_false] at member
      rcases member with rfl | rfl | rfl <;> simp at ascii <;> omega
    · simp only [List.mem_cons, List.not_mem_nil, or_false] at member
      rcases member with rfl | rfl | rfl | rfl <;> simp at ascii <;> omega

@[simp]
theorem encode_nil : encode [] = [] := rfl

@[simp]
theorem encode_cons (c : Char) (text : Text) :
    encode (c :: text) = String.utf8EncodeChar c ++ encode text := by
  simp [encode]

@[simp]
theorem encode_append (left right : Text) :
    encode (left ++ right) = encode left ++ encode right := by
  simp [encode]

/-- The octets of a text are read as its scalar values, whatever follows them. -/
theorem scan_encode (text : Text) (rest : Bytes) :
    scan none (encode text ++ rest) = text.map some ++ scan none rest := by
  induction text with
  | nil => rfl
  | cons c text inductionHypothesis =>
      rw [encode_cons, List.append_assoc, scan_encodeChar, inductionHypothesis]
      rfl

theorem scan_encode_nil (text : Text) : scan none (encode text) = text.map some := by
  have scanned := scan_encode text []
  simp only [List.append_nil] at scanned
  rw [scanned]
  simp only [scan, Option.isSome_none, Bool.false_eq_true, if_false, List.append_nil]

/-- Reading a list element by element succeeds where it succeeds on every element. -/
theorem mapM_eq_some_iff_forall₂ {α β : Type} {read : α → Option β} {inputs : List α}
    {outputs : List β} :
    inputs.mapM read = some outputs ↔
      List.Forall₂ (fun input output => read input = some output) inputs outputs := by
  induction inputs generalizing outputs with
  | nil => simp [eq_comm]
  | cons input inputs inductionHypothesis =>
      simp only [List.mapM_cons, bind, pure, Option.bind_eq_some_iff, Option.some.injEq,
        inductionHypothesis, List.forall₂_cons_left_iff]
      constructor
      · rintro ⟨first, isFirst, others, areOthers, rfl⟩
        exact ⟨first, others, isFirst, areOthers, rfl⟩
      · rintro ⟨first, others, isFirst, areOthers, rfl⟩
        exact ⟨first, isFirst, others, areOthers, rfl⟩

theorem mapM_id_map_some (text : Text) : (text.map some).mapM id = some text := by
  induction text with
  | nil => rfl
  | cons c text inductionHypothesis =>
      rw [List.map_cons, List.mapM_cons, inductionHypothesis]
      rfl

@[simp]
theorem decode?_encode (text : Text) : decode? (encode text) = some text := by
  rw [decode?, scan_encode_nil]
  exact mapM_id_map_some text

theorem scan_ascii {octets : Bytes} (ascii : ∀ b ∈ octets, b < 0x80) :
    scan none octets = (Text.ofAscii octets).map some := by
  induction octets with
  | nil => rfl
  | cons b octets inductionHypothesis =>
      obtain ⟨isAscii, areAscii⟩ := List.forall_mem_cons.mp ascii
      have whole : step none b = ([some (Char.ofNat b.toNat)], none) := by
        simp [step, begin, lead, isAscii]
      simp only [scan, whole, inductionHypothesis areAscii]
      rfl

theorem decodeLossy_ascii {octets : Bytes} (ascii : ∀ b ∈ octets, b < 0x80) :
    decodeLossy octets = Text.ofAscii octets := by
  rw [decodeLossy, scan_ascii ascii]
  simp

theorem encode_injective : Function.Injective encode := by
  intro left right same
  have read := congrArg decode? same
  simpa using read

theorem lead_stray {number : Nat} (stray : (128 ≤ number ∧ number < 194) ∨
    (245 ≤ number ∧ number < 256)) : lead (UInt8.ofNat number) = .stray := by
  rcases stray with ⟨least, greatest⟩ | ⟨least, greatest⟩ <;> interval_cases number <;> rfl

/-- Which octets an open scalar value begins with. -/
inductive Begun.BeginsWith : Begun → Bytes → Prop where
  | oneOfTwo {high : Nat} (least : 2 ≤ high) (greatest : high < 32) :
      BeginsWith ⟨0, 0x80, 0xBF, high⟩ [UInt8.ofNat (high + 192)]
  | oneOfThree {high : Nat} (greatest : high < 16) :
      BeginsWith ⟨1, if high = 0 then 0xA0 else 0x80, if high = 13 then 0x9F else 0xBF, high⟩
        [UInt8.ofNat (high + 224)]
  | twoOfThree {high middle : Nat} (greatest : high < 16) (small : middle < 64)
      (shortest : high = 0 → 32 ≤ middle) (noSurrogate : high = 13 → middle < 32) :
      BeginsWith ⟨0, 0x80, 0xBF, high * 64 + middle⟩
        [UInt8.ofNat (high + 224), UInt8.ofNat (middle + 128)]
  | oneOfFour {high : Nat} (greatest : high ≤ 4) :
      BeginsWith ⟨2, if high = 0 then 0x90 else 0x80, if high = 4 then 0x8F else 0xBF, high⟩
        [UInt8.ofNat (high + 240)]
  | twoOfFour {high upper : Nat} (greatest : high ≤ 4) (small : upper < 64)
      (shortest : high = 0 → 16 ≤ upper) (within : high = 4 → upper < 16) :
      BeginsWith ⟨1, 0x80, 0xBF, high * 64 + upper⟩
        [UInt8.ofNat (high + 240), UInt8.ofNat (upper + 128)]
  | threeOfFour {high upper middle : Nat} (greatest : high ≤ 4) (large : upper < 64)
      (small : middle < 64) (shortest : high = 0 → 16 ≤ upper) (within : high = 4 → upper < 16) :
      BeginsWith ⟨0, 0x80, 0xBF, (high * 64 + upper) * 64 + middle⟩
        [UInt8.ofNat (high + 240), UInt8.ofNat (upper + 128), UInt8.ofNat (middle + 128)]

theorem toNat_ofNat {number : Nat}
    (valid : number < 0xD800 ∨ (0xDFFF < number ∧ number < 0x110000)) :
    (Char.ofNat number).val.toNat = number := by
  rw [Char.ofNat, dif_pos valid]
  simp [Char.ofNatAux]

theorem encodeChar_ascii {number : Nat} (ascii : number < 128) :
    String.utf8EncodeChar (Char.ofNat number) = [UInt8.ofNat number] := by
  simp only [String.utf8EncodeChar, toNat_ofNat (.inl (show number < 0xD800 by omega))]
  rw [if_pos (by omega)]

theorem encodeChar_two {high low : Nat} (least : 2 ≤ high) (greatest : high < 32)
    (small : low < 64) :
    String.utf8EncodeChar (Char.ofNat (high * 64 + low)) =
      [UInt8.ofNat (high + 192), UInt8.ofNat (low + 128)] := by
  simp only [String.utf8EncodeChar, toNat_ofNat (.inl (show high * 64 + low < 0xD800 by omega))]
  rw [if_neg (by omega), if_pos (by omega), show (high * 64 + low) / 64 % 32 = high by omega,
    show (high * 64 + low) % 64 = low by omega]

theorem encodeChar_three {high middle low : Nat} (greatest : high < 16) (medium : middle < 64)
    (small : low < 64) (shortest : high = 0 → 32 ≤ middle) (noSurrogate : high = 13 → middle < 32) :
    String.utf8EncodeChar (Char.ofNat ((high * 64 + middle) * 64 + low)) =
      [UInt8.ofNat (high + 224), UInt8.ofNat (middle + 128), UInt8.ofNat (low + 128)] := by
  have valid : (high * 64 + middle) * 64 + low < 0xD800 ∨
      (0xDFFF < (high * 64 + middle) * 64 + low ∧ (high * 64 + middle) * 64 + low < 0x110000) := by
    omega
  simp only [String.utf8EncodeChar, toNat_ofNat valid]
  generalize isNumber : (high * 64 + middle) * 64 + low = number
  rw [if_neg (by omega), if_neg (by omega), if_pos (by omega),
    show number / 4096 % 16 = high by omega, show number / 64 % 64 = middle by omega,
    show number % 64 = low by omega]

theorem encodeChar_four {high upper middle low : Nat} (greatest : high ≤ 4) (large : upper < 64)
    (medium : middle < 64) (small : low < 64) (shortest : high = 0 → 16 ≤ upper)
    (within : high = 4 → upper < 16) :
    String.utf8EncodeChar (Char.ofNat (((high * 64 + upper) * 64 + middle) * 64 + low)) =
      [UInt8.ofNat (high + 240), UInt8.ofNat (upper + 128), UInt8.ofNat (middle + 128),
        UInt8.ofNat (low + 128)] := by
  have valid : ((high * 64 + upper) * 64 + middle) * 64 + low < 0xD800 ∨
      (0xDFFF < ((high * 64 + upper) * 64 + middle) * 64 + low ∧
        ((high * 64 + upper) * 64 + middle) * 64 + low < 0x110000) := by
    omega
  simp only [String.utf8EncodeChar, toNat_ofNat valid]
  generalize isNumber : ((high * 64 + upper) * 64 + middle) * 64 + low = number
  rw [if_neg (by omega), if_neg (by omega), if_neg (by omega),
    show number / 262144 % 8 = high by omega, show number / 4096 % 64 = upper by omega,
    show number / 64 % 64 = middle by omega, show number % 64 = low by omega]

/-- A first octet that is not stray is a scalar value of its own or begins one. -/
theorem lead_cases (b : UInt8) :
    (∃ c, lead b = .whole c ∧ String.utf8EncodeChar c = [b]) ∨
      (∃ begun, lead b = .opens begun ∧ begun.BeginsWith [b]) ∨ lead b = .stray := by
  obtain ⟨number, small, rfl⟩ : ∃ number, number < 256 ∧ UInt8.ofNat number = b :=
    ⟨b.toNat, b.toNat_lt, UInt8.ofNat_toNat⟩
  by_cases ascii : number < 128
  · exact .inl ⟨_, lead_ascii ascii, encodeChar_ascii ascii⟩
  by_cases two : 194 ≤ number ∧ number < 224
  · obtain ⟨high, rfl⟩ : ∃ high, number = high + 192 := ⟨number - 192, by omega⟩
    exact .inr (.inl ⟨_, lead_two (by omega) (by omega), .oneOfTwo (by omega) (by omega)⟩)
  by_cases three : 224 ≤ number ∧ number < 240
  · obtain ⟨high, rfl⟩ : ∃ high, number = high + 224 := ⟨number - 224, by omega⟩
    exact .inr (.inl ⟨_, lead_three (by omega), .oneOfThree (by omega)⟩)
  by_cases four : 240 ≤ number ∧ number < 245
  · obtain ⟨high, rfl⟩ : ∃ high, number = high + 240 := ⟨number - 240, by omega⟩
    exact .inr (.inl ⟨_, lead_four (by omega), .oneOfFour (by omega)⟩)
  · exact .inr (.inr (lead_stray (by omega)))

theorem Begun.BeginsWith.continues {begun : Begun} {octets : Bytes}
    (begins : begun.BeginsWith octets) {b : UInt8} (least : begun.least ≤ b)
    (greatest : b ≤ begun.greatest) : ∃ low, low < 64 ∧ b = UInt8.ofNat (low + 128) := by
  have range : 0x80 ≤ begun.least.toNat ∧ begun.greatest.toNat ≤ 0xBF := by
    cases begins <;> dsimp only <;> first | decide | (split <;> split <;> decide)
  rw [UInt8.le_iff_toNat_le] at least greatest
  refine ⟨b.toNat - 128, by omega, ?_⟩
  rw [show b.toNat - 128 + 128 = b.toNat by omega, UInt8.ofNat_toNat]

/-- An octet that continues an open scalar value completes it or begins it further. -/
theorem step_cases {begun : Begun} {octets : Bytes} (begins : begun.BeginsWith octets) {b : UInt8}
    (least : begun.least ≤ b) (greatest : b ≤ begun.greatest) :
    (∃ c, step (some begun) b = ([some c], none) ∧ String.utf8EncodeChar c = octets ++ [b]) ∨
      ∃ next, step (some begun) b = ([], some next) ∧ next.BeginsWith (octets ++ [b]) := by
  obtain ⟨low, small, rfl⟩ := begins.continues least greatest
  have toNat : (UInt8.ofNat (low + 128)).toNat = low + 128 := by simp; omega
  rw [UInt8.le_iff_toNat_le, toNat] at least greatest
  cases begins with
  | oneOfTwo leastHigh greatestHigh =>
      exact .inl ⟨_, step_last rfl small least greatest,
        encodeChar_two leastHigh greatestHigh small⟩
  | twoOfThree greatestHigh medium shortest noSurrogate =>
      exact .inl ⟨_, step_last rfl small least greatest,
        encodeChar_three greatestHigh medium small shortest noSurrogate⟩
  | threeOfFour greatestHigh large medium shortest within =>
      exact .inl ⟨_, step_last rfl small least greatest,
        encodeChar_four greatestHigh large medium small shortest within⟩
  | oneOfThree greatestHigh =>
      refine .inr ⟨_, step_further rfl small least greatest,
        .twoOfThree greatestHigh small ?_ ?_⟩
      · rintro rfl
        simpa using least
      · rintro rfl
        simp at greatest
        omega
  | oneOfFour greatestHigh =>
      refine .inr ⟨_, step_further rfl small least greatest,
        .twoOfFour greatestHigh small ?_ ?_⟩
      · rintro rfl
        simpa using least
      · rintro rfl
        simp at greatest
        omega
  | twoOfFour greatestHigh large shortest within =>
      exact .inr ⟨_, step_further rfl small least greatest,
        .threeOfFour greatestHigh large small shortest within⟩

/-- Where reading leaves no gap, the octets are those of the text that is found, together with
those of the scalar value that is open. -/
theorem encode_of_scan {opened : Option Begun} {bytes octets : Bytes} {text : Text}
    (begins : ∀ begun ∈ opened, begun.BeginsWith octets) (isClosed : opened = none → octets = [])
    (scanned : scan opened bytes = text.map some) : encode text = octets ++ bytes := by
  induction bytes generalizing opened octets text with
  | nil =>
      cases opened with
      | none =>
          rw [isClosed rfl]
          cases text with
          | nil => rfl
          | cons c text => contradiction
      | some begun => cases text <;> simp [scan] at scanned
  | cons b bytes inductionHypothesis =>
      have atGap (rest : List (Option Char)) : none :: rest ≠ text.map some := by
        cases text <;> simp
      rw [scan] at scanned
      cases opened with
      | none =>
          rw [isClosed rfl, List.nil_append]
          rcases lead_cases b with ⟨c, whole, encoded⟩ | ⟨begun, opens, beginsWith⟩ | stray
          · simp only [step, begin, whole, List.singleton_append] at scanned
            obtain ⟨_, behind, rfl, ⟨⟩, rest⟩ := List.map_eq_cons_iff.mp scanned.symm
            rw [encode_cons, encoded, inductionHypothesis (by simp) (fun _ => rfl) rest.symm]
            rfl
          · simp only [step, begin, opens, List.nil_append] at scanned
            exact inductionHypothesis (by simpa using beginsWith) (by simp) scanned
          · simp only [step, begin, stray, List.singleton_append] at scanned
            exact absurd scanned (atGap _)
      | some begun =>
          by_cases continues : begun.least ≤ b ∧ b ≤ begun.greatest
          · rcases step_cases (begins begun rfl) continues.1 continues.2 with
              ⟨c, stepped, encoded⟩ | ⟨next, stepped, beginsWith⟩
            · rw [stepped] at scanned
              obtain ⟨_, behind, rfl, ⟨⟩, rest⟩ := List.map_eq_cons_iff.mp scanned.symm
              rw [encode_cons, encoded, inductionHypothesis (by simp) (fun _ => rfl) rest.symm]
              simp
            · rw [stepped] at scanned
              rw [inductionHypothesis (by simpa using beginsWith) (by simp) scanned]
              simp
          · simp only [step, if_neg continues] at scanned
            exact absurd scanned (atGap _)

theorem map_some_of_mapM_id {found : List (Option Char)} {text : Text}
    (whole : found.mapM id = some text) : found = text.map some := by
  rw [mapM_eq_some_iff_forall₂] at whole
  induction whole with
  | nil => rfl
  | cons isFirst _ inductionHypothesis => rw [List.map_cons, ← inductionHypothesis, ← isFirst, id]

/-- Strict reading finds a text exactly in the octets of that text. -/
theorem decode?_eq_some_iff {bytes : Bytes} {text : Text} :
    decode? bytes = some text ↔ bytes = encode text := by
  constructor
  · intro decoded
    have read : encode text = [] ++ bytes :=
      encode_of_scan (by simp) (fun _ => rfl) (map_some_of_mapM_id decoded)
    exact read.symm
  · rintro rfl
    exact decode?_encode text

/-- Whether octets before a rest are a gap: no scalar value starts there, and they are all that a
scalar value could have begun with, or a single octet where none could. -/
structure IsGap (broken rest : Bytes) : Prop where
  nonempty : broken ≠ []
  noCharacter : ∀ c, ¬ String.utf8EncodeChar c <+: broken ++ rest
  begins : broken.length = 1 ∨ ∃ c, broken <+: String.utf8EncodeChar c
  longest : ∀ b ∈ rest.head?, ∀ c, ¬ broken ++ [b] <+: String.utf8EncodeChar c

/-- What octets are shown as: scalar values as they are, and a replacement for every gap. -/
inductive ShownAs : Bytes → Text → Prop
  | nil : ShownAs [] []
  | character (c : Char) {rest : Bytes} {text : Text} (behind : ShownAs rest text) :
    ShownAs (String.utf8EncodeChar c ++ rest) (c :: text)
  | gap {broken rest : Bytes} {text : Text} (isGap : IsGap broken rest)
    (behind : ShownAs rest text) : ShownAs (broken ++ rest) ('\uFFFD' :: text)

/-- Octets are a gap if they are read as one, whatever comes behind the octet that ends it. -/
theorem isGap_of_scan {broken rest : Bytes} (nonempty : broken ≠ [])
    (begins : broken.length = 1 ∨ ∃ c, broken <+: String.utf8EncodeChar c)
    (breaks : ∀ more : Bytes, more.head? = rest.head? →
      ∃ found, scan none (broken ++ more) = none :: found) : IsGap broken rest := by
  refine ⟨nonempty, ?_, begins, ?_⟩
  · rintro c ⟨behind, same⟩
    obtain ⟨found, scanned⟩ := breaks rest rfl
    rw [← same, scan_encodeChar] at scanned
    exact Option.some_ne_none c (List.cons.inj scanned).1
  · rintro b next c ⟨more, same⟩
    obtain ⟨found, scanned⟩ := breaks (b :: more) next.symm
    have whole := scan_encodeChar c []
    rw [List.append_nil, ← same, List.append_assoc, List.singleton_append, scanned] at whole
    exact Option.some_ne_none c (List.cons.inj whole).1.symm

theorem isGap_of_stray {b : UInt8} (stray : lead b = .stray) (rest : Bytes) : IsGap [b] rest := by
  refine isGap_of_scan (by simp) (.inl rfl) ?_
  intro more _
  refine ⟨scan none more, ?_⟩
  simp only [List.cons_append, List.nil_append, scan, step, begin, stray]

namespace Begun.BeginsWith

variable {begun : Begun} {octets : Bytes}

theorem scan_append (begins : begun.BeginsWith octets) (more : Bytes) :
    scan none (octets ++ more) = scan (some begun) more := by
  have opens {b : UInt8} {next : Begun} {bytes : Bytes} (isFirst : lead b = .opens next) :
      scan none (b :: bytes) = scan (some next) bytes := by
    simp only [scan, step, begin, isFirst, List.nil_append]
  have goesOn {b : UInt8} {opened next : Begun} {bytes : Bytes}
      (stepped : step (some opened) b = ([], some next)) :
      scan (some opened) (b :: bytes) = scan (some next) bytes := by
    rw [scan, stepped]
    rfl
  cases begins with
  | oneOfTwo least greatest => exact opens (lead_two least greatest)
  | oneOfThree greatest => exact opens (lead_three greatest)
  | oneOfFour greatest => exact opens (lead_four greatest)
  | twoOfThree greatest small shortest noSurrogate =>
      exact (opens (lead_three greatest)).trans <| goesOn <| step_further rfl small
        (by dsimp only; split <;> simp; omega) (by dsimp only; split <;> simp <;> omega)
  | twoOfFour greatest small shortest within =>
      exact (opens (lead_four greatest)).trans <| goesOn <| step_further rfl small
        (by dsimp only; split <;> simp; omega) (by dsimp only; split <;> simp <;> omega)
  | threeOfFour greatest large small shortest within =>
      refine ((opens (lead_four greatest)).trans <| goesOn <| step_further rfl large
        (by dsimp only; split <;> simp; omega) (by dsimp only; split <;> simp <;> omega)).trans ?_
      exact goesOn (step_further rfl small (by simp) (by simp; omega))

/-- An open scalar value can be completed. -/
theorem exists_completed (begins : begun.BeginsWith octets) :
    ∃ c, octets <+: String.utf8EncodeChar c := by
  cases begins with
  | oneOfTwo least greatest =>
      have whole := encodeChar_two least greatest (Nat.zero_lt_succ 63)
      exact ⟨_, by rw [whole]; simp⟩
  | @oneOfThree high greatest =>
      have medium : (if high = 0 then 32 else 0) < 64 := by split <;> omega
      have whole := encodeChar_three greatest medium (Nat.zero_lt_succ 63) (by simp_all)
        (by simp_all)
      exact ⟨_, by rw [whole]; simp⟩
  | twoOfThree greatest small shortest noSurrogate =>
      have whole := encodeChar_three greatest small (Nat.zero_lt_succ 63) shortest noSurrogate
      exact ⟨_, by rw [whole]; simp⟩
  | @oneOfFour high greatest =>
      have large : (if high = 0 then 16 else 0) < 64 := by split <;> omega
      have whole := encodeChar_four greatest large (Nat.zero_lt_succ 63) (Nat.zero_lt_succ 63)
        (by simp_all) (by simp_all)
      exact ⟨_, by rw [whole]; simp⟩
  | twoOfFour greatest small shortest within =>
      have whole := encodeChar_four greatest small (Nat.zero_lt_succ 63) (Nat.zero_lt_succ 63)
        shortest within
      exact ⟨_, by rw [whole]; simp⟩
  | threeOfFour greatest large small shortest within =>
      have whole := encodeChar_four greatest large small (Nat.zero_lt_succ 63) shortest within
      exact ⟨_, by rw [whole]; simp⟩

/-- A scalar value that stays open is a gap, if the next octet does not continue it. -/
theorem isGap (begins : begun.BeginsWith octets) {rest : Bytes}
    (breaks : ∀ more : Bytes, more.head? = rest.head? →
      ∃ found, scan (some begun) more = none :: found) : IsGap octets rest := by
  have nonempty : octets ≠ [] := by
    cases begins <;> simp
  refine isGap_of_scan nonempty (.inr begins.exists_completed) ?_
  intro more sameHead
  rw [begins.scan_append]
  exact breaks more sameHead

end Begun.BeginsWith

/-- What lenient reading finds is what the octets are shown as, together with those of the scalar
value that is open. -/
theorem shownAs_scan {opened : Option Begun} {octets : Bytes} (bytes : Bytes)
    (begins : ∀ begun ∈ opened, begun.BeginsWith octets) (isClosed : opened = none → octets = []) :
    ShownAs (octets ++ bytes) ((scan opened bytes).map (·.getD '\uFFFD')) := by
  induction bytes generalizing opened octets with
  | nil =>
      cases opened with
      | none =>
          rw [isClosed rfl]
          exact .nil
      | some begun =>
          refine .gap ((begins begun rfl).isGap ?_) .nil
          intro more atEnd
          rw [List.head?_eq_none_iff.mp atEnd]
          exact ⟨[], rfl⟩
  | cons b bytes inductionHypothesis =>
      have closed : ShownAs bytes ((scan none bytes).map (·.getD '\uFFFD')) :=
        inductionHypothesis (by simp) fun _ => rfl
      have fresh : ShownAs (b :: bytes) ((scan none (b :: bytes)).map (·.getD '\uFFFD')) := by
        rw [scan, step, begin]
        rcases lead_cases b with ⟨c, whole, encoded⟩ | ⟨begun, opens, beginsWith⟩ | stray
        · rw [whole, ← List.singleton_append, ← encoded]
          exact .character c closed
        · rw [opens]
          have begins : ∀ other ∈ some begun, other.BeginsWith [b] := by simpa using beginsWith
          exact inductionHypothesis begins (by simp)
        · rw [stray]
          exact .gap (isGap_of_stray stray bytes) closed
      cases opened with
      | none =>
          rw [isClosed rfl]
          exact fresh
      | some begun =>
          by_cases continues : begun.least ≤ b ∧ b ≤ begun.greatest
          · rw [scan]
            rcases step_cases (begins begun rfl) continues.1 continues.2 with
              ⟨c, stepped, encoded⟩ | ⟨next, stepped, beginsWith⟩
            · rw [stepped, List.append_cons, ← encoded]
              exact .character c closed
            · rw [stepped, List.append_cons]
              exact inductionHypothesis (by simpa using beginsWith) (by simp)
          · have broken (more : Bytes) :
                scan (some begun) (b :: more) = none :: scan none (b :: more) := by
              rw [scan, step, if_neg continues]
              rfl
            rw [broken]
            refine .gap ((begins begun rfl).isGap ?_) fresh
            intro more sameHead
            obtain ⟨further, rfl⟩ := List.head?_eq_some_iff.mp sameHead
            exact ⟨_, broken further⟩

theorem shownAs_decodeLossy (bytes : Bytes) : ShownAs bytes (decodeLossy bytes) :=
  shownAs_scan bytes (by simp) fun _ => rfl

end UploadProbe.Utf8
