import LayerTwo.Text.Encoding
import Mathlib

/-! Texts written in the encoding forms. A character beyond the 16-bit range is written as two
surrogates in UTF-16; in every form a text is what its characters are one after another, so it reads
back character by character. -/
namespace LayerTwo.Text

/-- The 16-bit units of a character: its code point, or the two surrogates that stand for it. -/
def units (c : Char) : List Nat :=
  if c.toNat < 0x10000 then [c.toNat]
  else [0xD800 + (c.toNat - 0x10000) / 0x400, 0xDC00 + (c.toNat - 0x10000) % 0x400]

/-- The two bytes of a 16-bit unit. -/
def bytes16 (bigEndian : Bool) (unit : Nat) : List UInt8 :=
  let high := UInt8.ofNat (unit / 256)
  let low := UInt8.ofNat (unit % 256)
  if bigEndian then [high, low] else [low, high]

/-- The four bytes of a code point. -/
def bytes32 (bigEndian : Bool) (code : Nat) : List UInt8 :=
  let high := bytes16 bigEndian (code / 65536)
  let low := bytes16 bigEndian (code % 65536)
  if bigEndian then high ++ low else low ++ high

def Encoding.encodeChar : Encoding → Char → List UInt8
  | .utf8, c => String.utf8EncodeChar c
  | .utf16 bigEndian, c => (units c).flatMap (bytes16 bigEndian)
  | .utf32 bigEndian, c => bytes32 bigEndian c.toNat

def Encoding.encode (encoding : Encoding) (text : List Char) : List UInt8 :=
  text.flatMap encoding.encodeChar

/-- The bytes read as the character, whatever comes after them. -/
def Reads (read : Nat → List UInt8 → Except DecodeFault (List Char)) (c : Char)
    (octets : List UInt8) : Prop :=
  ∀ position rest, ∃ next, read position (octets ++ rest) = (read next rest).map (c :: ·)

/-! Code points -/

/-- The code points that are no characters are the surrogates. -/
theorem toNat_valid (c : Char) : c.toNat < 0xD800 ∨ 0xDFFF < c.toNat ∧ c.toNat < 0x110000 := c.valid

theorem charOfCode_toNat (c : Char) : charOfCode c.toNat = c := by
  have valid : c.toNat.isValidChar := c.valid
  rw [charOfCode, dif_pos valid]
  exact Char.ext (UInt32.toNat_inj.mp rfl)

theorem toNat_ofNat_of_lt {n : Nat} (small : n < 256) : (UInt8.ofNat n).toNat = n :=
  Nat.mod_eq_of_lt small

theorem isHighSurrogate_iff {unit : Nat} :
    isHighSurrogate unit = true ↔ 0xD800 ≤ unit ∧ unit < 0xDC00 := by
  simp [isHighSurrogate]

theorem isLowSurrogate_iff {unit : Nat} :
    isLowSurrogate unit = true ↔ 0xDC00 ≤ unit ∧ unit < 0xE000 := by
  simp [isLowSurrogate]

/-- One unit is the character itself and no high surrogate; two are a pair that joins to it. -/
theorem units_cases (c : Char) :
    (units c = [c.toNat] ∧ c.toNat < 0x10000 ∧ isHighSurrogate c.toNat = false) ∨
    ∃ high low, units c = [high, low] ∧ isHighSurrogate high = true ∧ isLowSurrogate low = true ∧
      joinSurrogates high low = c.toNat := by
  have valid := toNat_valid c
  unfold units
  generalize c.toNat = code at valid ⊢
  by_cases small : code < 0x10000
  · left
    refine ⟨if_pos small, small, ?_⟩
    rw [Bool.eq_false_iff, Ne, isHighSurrogate_iff]
    omega
  · right
    refine ⟨_, _, if_neg small, isHighSurrogate_iff.mpr ?_, isLowSurrogate_iff.mpr ?_, ?_⟩
    · omega
    · omega
    · unfold joinSurrogates
      omega

/-! UTF-8 -/

variable {a b c d : UInt8} {w x y z : Nat}

theorem not_lt_of_toNat {bound : UInt8} (lead : a.toNat = w) (least : bound.toNat ≤ w) :
    ¬a < bound := by
  rw [UInt8.lt_iff_toNat_lt, lead]
  omega

theorem lt_of_toNat {bound : UInt8} (lead : a.toNat = w) (most : w < bound.toNat) : a < bound := by
  rw [UInt8.lt_iff_toNat_lt, lead]
  exact most

theorem isContinuation_of (tail : b.toNat = x) (least : 0x80 ≤ x) (most : x < 0xC0) :
    isContinuation b = true := by
  simp only [isContinuation, Bool.and_eq_true, decide_eq_true_eq]
  exact ⟨UInt8.not_lt.mp (not_lt_of_toNat tail least), lt_of_toNat tail most⟩

theorem decodeUtf8_one (position : Nat) (rest : List UInt8) (lead : a.toNat = w) (most : w < 0x80) :
    decodeUtf8 position (a :: rest) = (decodeUtf8 (position + 1) rest).map (Char.ofNat w :: ·) := by
  have one : a < 0x80 := lt_of_toNat lead most
  rw [decodeUtf8.eq_def]
  simp only [one, if_true, lead]

theorem decodeUtf8_two (position : Nat) (rest : List UInt8) (lead : a.toNat = w) (least : 0xC2 ≤ w)
    (most : w < 0xE0) (second : b.toNat = x) (tail : 0x80 ≤ x ∧ x < 0xC0) :
    decodeUtf8 position (a :: b :: rest) =
      (decodeUtf8 (position + 2) rest).map (charOfCode (64 * (w % 32) + x % 64) :: ·) := by
  have notOne : ¬a < 0x80 := not_lt_of_toNat lead (le_trans (by decide) least)
  have start : ¬a < 0xC2 := not_lt_of_toNat lead least
  have two : a < 0xE0 := lt_of_toNat lead most
  have tail := isContinuation_of second tail.1 tail.2
  rw [decodeUtf8.eq_def]
  simp only [notOne, start, two, tail, if_true, if_false, extend, lead, second]

theorem decodeUtf8_three (position : Nat) (rest : List UInt8) (lead : a.toNat = w)
    (least : 0xE0 ≤ w) (most : w < 0xF0) (second : b.toNat = x) (tail : 0x80 ≤ x ∧ x < 0xC0)
    (long : w = 0xE0 → 0xA0 ≤ x) (third : c.toNat = y) (last : 0x80 ≤ y ∧ y < 0xC0) :
    decodeUtf8 position (a :: b :: c :: rest) =
      (decodeUtf8 (position + 3) rest).map
        (charOfCode (64 * (64 * (w % 16) + x % 64) + y % 64) :: ·) := by
  have notOne : ¬a < 0x80 := not_lt_of_toNat lead (le_trans (by decide) least)
  have start : ¬a < 0xC2 := not_lt_of_toNat lead (le_trans (by decide) least)
  have notTwo : ¬a < 0xE0 := not_lt_of_toNat lead least
  have three : a < 0xF0 := lt_of_toNat lead most
  have follows : followsThree a b = true := by
    have short : (a == 0xE0 && b < 0xA0) = false := by
      rw [Bool.and_eq_false_imp, beq_iff_eq, decide_eq_false_iff_not]
      rintro rfl
      exact not_lt_of_toNat second (long lead.symm)
    rw [followsThree, isContinuation_of second tail.1 tail.2, short]
    rfl
  have last := isContinuation_of third last.1 last.2
  rw [decodeUtf8.eq_def]
  simp only [notOne, start, notTwo, three, follows, last, if_true, if_false, Bool.not_true,
    Bool.false_eq_true, extend, lead, second, third]

theorem decodeUtf8_four (position : Nat) (rest : List UInt8) (lead : a.toNat = w)
    (least : 0xF0 ≤ w) (most : w < 0xF5) (second : b.toNat = x) (tail : 0x80 ≤ x ∧ x < 0xC0)
    (long : w = 0xF0 → 0x90 ≤ x)
    (inRange : w = 0xF4 → x < 0x90) (third : c.toNat = y) (next : 0x80 ≤ y ∧ y < 0xC0)
    (fourth : d.toNat = z) (last : 0x80 ≤ z ∧ z < 0xC0) :
    decodeUtf8 position (a :: b :: c :: d :: rest) =
      (decodeUtf8 (position + 4) rest).map
        (charOfCode (64 * (64 * (64 * (w % 8) + x % 64) + y % 64) + z % 64) :: ·) := by
  have notOne : ¬a < 0x80 := not_lt_of_toNat lead (le_trans (by decide) least)
  have start : ¬a < 0xC2 := not_lt_of_toNat lead (le_trans (by decide) least)
  have notTwo : ¬a < 0xE0 := not_lt_of_toNat lead (le_trans (by decide) least)
  have notThree : ¬a < 0xF0 := not_lt_of_toNat lead least
  have four : a < 0xF5 := lt_of_toNat lead most
  have follows : followsFour a b = true := by
    have short : (a == 0xF0 && b < 0x90) = false := by
      rw [Bool.and_eq_false_imp, beq_iff_eq, decide_eq_false_iff_not]
      rintro rfl
      exact not_lt_of_toNat second (long lead.symm)
    have beyond : (a == 0xF4 && 0x90 ≤ b) = false := by
      rw [Bool.and_eq_false_imp, beq_iff_eq, decide_eq_false_iff_not, UInt8.not_le]
      rintro rfl
      exact lt_of_toNat second (inRange lead.symm)
    rw [followsFour, isContinuation_of second tail.1 tail.2, short, beyond]
    rfl
  have next := isContinuation_of third next.1 next.2
  have last := isContinuation_of fourth last.1 last.2
  rw [decodeUtf8.eq_def]
  simp only [notOne, start, notTwo, notThree, four, follows, next, last, if_true, if_false,
    Bool.not_true, Bool.false_eq_true, extend, lead, second, third, fourth]

theorem reads_utf8 (c : Char) : Reads decodeUtf8 c (String.utf8EncodeChar c) := by
  intro position rest
  have valid := toNat_valid c
  have itself := charOfCode_toNat c
  have ascii := Char.ofNat_toNat c
  have whole : c.val.toNat = c.toNat := rfl
  unfold String.utf8EncodeChar
  dsimp only
  rw [whole]
  generalize c.toNat = code at valid itself ascii ⊢
  split_ifs with one two three
  · have lead := toNat_ofNat_of_lt (show code < 256 by omega)
    have step := decodeUtf8_one position rest lead (by omega)
    rw [ascii] at step
    exact ⟨_, step⟩
  · have lead := toNat_ofNat_of_lt (show code / 64 % 32 + 192 < 256 by omega)
    have second := toNat_ofNat_of_lt (show code % 64 + 128 < 256 by omega)
    have step := decodeUtf8_two position rest lead (by omega) (by omega)
      second (by omega)
    have joined : 64 * ((code / 64 % 32 + 192) % 32) + (code % 64 + 128) % 64 = code := by omega
    rw [joined, itself] at step
    exact ⟨_, step⟩
  · have lead := toNat_ofNat_of_lt (show code / 4096 % 16 + 224 < 256 by omega)
    have second := toNat_ofNat_of_lt (show code / 64 % 64 + 128 < 256 by omega)
    have third := toNat_ofNat_of_lt (show code % 64 + 128 < 256 by omega)
    have step := decodeUtf8_three position rest lead (by omega) (by omega)
      second (by omega) (by omega) third (by omega)
    have joined : 64 * (64 * ((code / 4096 % 16 + 224) % 16) + (code / 64 % 64 + 128) % 64) +
        (code % 64 + 128) % 64 = code := by omega
    rw [joined, itself] at step
    exact ⟨_, step⟩
  · have lead := toNat_ofNat_of_lt (show code / 262144 % 8 + 240 < 256 by omega)
    have second := toNat_ofNat_of_lt (show code / 4096 % 64 + 128 < 256 by omega)
    have third := toNat_ofNat_of_lt (show code / 64 % 64 + 128 < 256 by omega)
    have fourth := toNat_ofNat_of_lt (show code % 64 + 128 < 256 by omega)
    have step := decodeUtf8_four position rest lead (by omega) (by omega)
      second (by omega) (by omega) (by omega) third (by omega) fourth (by omega)
    have joined :
        64 * (64 * (64 * ((code / 262144 % 8 + 240) % 8) + (code / 4096 % 64 + 128) % 64) +
          (code / 64 % 64 + 128) % 64) + (code % 64 + 128) % 64 = code := by
      omega
    rw [joined, itself] at step
    exact ⟨_, step⟩

/-! UTF-16 and UTF-32 -/

theorem unit16_bytes16 (bigEndian : Bool) {unit : Nat} (small : unit < 65536) :
    ∃ first second, bytes16 bigEndian unit = [first, second] ∧
      unit16 bigEndian first second = unit := by
  have high := toNat_ofNat_of_lt (show unit / 256 < 256 by omega)
  have low := toNat_ofNat_of_lt (show unit % 256 < 256 by omega)
  cases bigEndian with
  | true =>
    refine ⟨_, _, rfl, ?_⟩
    simp only [unit16, high, low, if_true]
    omega
  | false =>
    refine ⟨_, _, rfl, ?_⟩
    simp only [unit16, high, low, Bool.false_eq_true, if_false]
    omega

/-- A unit that is no high surrogate is read alone, whatever unit comes after it. -/
theorem decodeUtf16_single {bigEndian : Bool} {a b : UInt8} (position : Nat)
    (rest : List UInt8) (single : isHighSurrogate (unit16 bigEndian a b) = false) :
    decodeUtf16 bigEndian position (a :: b :: rest) =
      (decodeUtf16 bigEndian (position + 2) rest).map (charOfCode (unit16 bigEndian a b) :: ·) := by
  rw [decodeUtf16.eq_def]
  dsimp only
  split
  · simp only [single, Bool.false_and, Bool.false_eq_true, if_false]
  · rfl

theorem decodeUtf16_pair {bigEndian : Bool} {a b c d : UInt8} (position : Nat)
    (rest : List UInt8) (high : isHighSurrogate (unit16 bigEndian a b) = true)
    (low : isLowSurrogate (unit16 bigEndian c d) = true) :
    decodeUtf16 bigEndian position (a :: b :: c :: d :: rest) =
      (decodeUtf16 bigEndian (position + 4) rest).map
        (charOfCode (joinSurrogates (unit16 bigEndian a b) (unit16 bigEndian c d)) :: ·) := by
  rw [decodeUtf16.eq_def]
  simp only [high, low, Bool.and_self, if_true]

theorem reads_utf16 (bigEndian : Bool) (c : Char) :
    Reads (decodeUtf16 bigEndian) c ((units c).flatMap (bytes16 bigEndian)) := by
  intro position rest
  have itself := charOfCode_toNat c
  rcases units_cases c with ⟨alone, small, single⟩ | ⟨high, low, pair, isHigh, isLow, joined⟩
  · obtain ⟨first, second, written, read⟩ := unit16_bytes16 bigEndian small
    have step := decodeUtf16_single position rest (read ▸ single)
    rw [read, itself] at step
    rw [alone, List.flatMap_singleton, written]
    exact ⟨_, step⟩
  · obtain ⟨a, b, highWritten, highRead⟩ := unit16_bytes16 bigEndian
      ((isHighSurrogate_iff.mp isHigh).2.trans (by decide))
    obtain ⟨c, d, lowWritten, lowRead⟩ := unit16_bytes16 bigEndian
      ((isLowSurrogate_iff.mp isLow).2.trans (by decide))
    have step := decodeUtf16_pair position rest (highRead ▸ isHigh)
      (lowRead ▸ isLow)
    rw [highRead, lowRead, joined, itself] at step
    rw [pair, List.flatMap_cons, List.flatMap_singleton, highWritten, lowWritten]
    exact ⟨_, step⟩

theorem reads_utf32 (bigEndian : Bool) (c : Char) :
    Reads (decodeUtf32 bigEndian) c (bytes32 bigEndian c.toNat) := by
  intro position rest
  have valid := toNat_valid c
  have itself := charOfCode_toNat c
  generalize c.toNat = code at valid itself ⊢
  have whole : 65536 * (code / 65536) + code % 65536 = code := Nat.div_add_mod code 65536
  have range : code < 0x110000 := by omega
  have upper : code / 65536 < 65536 := by omega
  have lower : code % 65536 < 65536 := by omega
  obtain ⟨a, b, highWritten, highRead⟩ := unit16_bytes16 bigEndian upper
  obtain ⟨c, d, lowWritten, lowRead⟩ := unit16_bytes16 bigEndian lower
  cases bigEndian with
  | true =>
    refine ⟨position + 4, ?_⟩
    simp only [bytes32, highWritten, lowWritten, if_true, List.cons_append, List.nil_append,
      decodeUtf32, highRead, lowRead, whole, range, itself]
  | false =>
    refine ⟨position + 4, ?_⟩
    simp only [bytes32, highWritten, lowWritten, Bool.false_eq_true, if_false, if_true,
      List.cons_append, List.nil_append, decodeUtf32, highRead, lowRead, whole, range, itself]

/-- What is written in an encoding form reads back, from whatever position. -/
theorem decode_encode (encoding : Encoding) (position : Nat) (text : List Char) :
    decode encoding position (encoding.encode text) = .ok text := by
  have char : ∀ c, Reads (decode encoding) c (encoding.encodeChar c) := by
    intro c
    cases encoding with
    | utf8 => exact reads_utf8 c
    | utf16 bigEndian => exact reads_utf16 bigEndian c
    | utf32 bigEndian => exact reads_utf32 bigEndian c
  induction text generalizing position with
  | nil => cases encoding <;> rfl
  | cons c rest ih =>
    obtain ⟨next, step⟩ := char c position (encoding.encode rest)
    rw [Encoding.encode, List.flatMap_cons]
    exact step.trans (by rw [ih next]; rfl)

/-! Strict UTF-8 -/

theorem utf8Text?_eq_some_iff {bytes : List UInt8} {text : String} :
    utf8Text? bytes = some text ↔ bytes = Encoding.utf8.encode text.toList := by
  have written : text.toByteArray = ⟨(Encoding.utf8.encode text.toList).toArray⟩ := by
    rw [← String.utf8Encode_toList]
    exact ByteArray.ext List.data_toByteArray
  unfold utf8Text? String.fromUTF8?
  rw [Option.dite_none_right_eq_some]
  constructor
  · rintro ⟨valid, same⟩
    have whole : (⟨bytes.toArray⟩ : ByteArray) = text.toByteArray := by
      rw [← Option.some.inj same]
      rfl
    rw [written, ByteArray.mk.injEq] at whole
    exact congrArg Array.toList whole
  · rintro rfl
    rw [← written]
    exact ⟨text.isValidUTF8, rfl⟩

/-- Strictly read, bytes are a text exactly when they are its characters in UTF-8. -/
theorem strictUtf8_eq_ok_iff {bytes : List UInt8} {text : String} :
    strictUtf8 bytes = .ok text ↔ bytes = Encoding.utf8.encode text.toList := by
  rw [← utf8Text?_eq_some_iff, strictUtf8]
  cases utf8Text? bytes <;> simp

theorem strictUtf8_of_foreign {bytes : List UInt8}
    (foreign : ∀ text : String, bytes ≠ Encoding.utf8.encode text.toList) :
    strictUtf8 bytes = .error (utf8Fault bytes) := by
  have none : utf8Text? bytes = none :=
    Option.eq_none_iff_forall_ne_some.mpr fun text found => foreign text (utf8Text?_eq_some_iff.mp found)
  rw [strictUtf8, none]

end LayerTwo.Text
