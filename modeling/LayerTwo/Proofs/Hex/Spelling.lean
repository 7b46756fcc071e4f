import Mathlib
import LayerTwo.Hex.Wire

/-! Hex is read in either case and written in lower case. A text is read as bytes, or as a number,
exactly when it is what writing them gives up to the case of its letters. The bound of 64 digits on
quantities is the bound of 256 bits because leading zeros are refused. -/
namespace LayerTwo.Hex

theorem char_ext {c d : Char} (same : c.toNat = d.toNat) : c = d :=
  Char.ext (UInt32.toNat_inj.mp same)

theorem isUpper_iff_toNat {c : Char} : c.isUpper ↔ 65 ≤ c.toNat ∧ c.toNat ≤ 90 := by
  simp [Char.isUpper, UInt32.le_iff_toNat_le, ← Char.toNat_val]

theorem toNat_toLower (c : Char) :
    c.toLower.toNat = if 65 ≤ c.toNat ∧ c.toNat ≤ 90 then c.toNat + 32 else c.toNat := by
  by_cases upper : c.isUpper
  · have range := isUpper_iff_toNat.mp upper
    rw [Char.toLower_eq_of_isUpper upper, if_pos range, Char.toNat_ofNat, if_pos]
    exact Or.inl (by omega)
  · rw [Char.toLower_eq_of_not_isUpper upper, if_neg (mt isUpper_iff_toNat.mpr upper)]

theorem toNat_digit {n : Nat} (small : n < 16) :
    (digit n).toNat = if n < 10 then 48 + n else 87 + n := by
  have all : ∀ m < 16, (digit m).toNat = if m < 10 then 48 + m else 87 + m := by decide
  exact all n small

theorem digitValue?_toLower (c : Char) : digitValue? c.toLower = digitValue? c := by
  simp only [digitValue?, toNat_toLower]
  split_ifs <;> first | omega | rfl

theorem digitValue?_eq_some_iff {c : Char} {n : Nat} :
    digitValue? c = some n ↔ n < 16 ∧ c.toLower = digit n := by
  constructor
  · intro found
    simp only [digitValue?] at found
    have small : n < 16 := by
      split_ifs at found <;> simp only [Option.some.injEq] at found <;> omega
    refine ⟨small, char_ext ?_⟩
    rw [toNat_toLower, toNat_digit small]
    split_ifs at found <;> simp only [Option.some.injEq] at found <;> split_ifs <;> omega
  · rintro ⟨small, lowered⟩
    rw [← digitValue?_toLower, lowered, digitValue?_digit small]

theorem isDigit_toLower (c : Char) : isDigit c.toLower = isDigit c := by
  simp only [isDigit, digitValue?_toLower]

theorem isDigit_digit {n : Nat} (small : n < 16) : isDigit (digit n) = true := by
  simp only [isDigit, digitValue?_digit small, Option.isSome_some]

theorem all_isDigit_map_toLower (text : List Char) :
    (text.map Char.toLower).all isDigit = text.all isDigit := by
  induction text with
  | nil => rfl
  | cons c rest ih => simp only [List.map_cons, List.all_cons, isDigit_toLower, ih]

/-! Bytes -/

theorem length_ofBytes (bytes : List UInt8) : (ofBytes bytes).length = 2 * bytes.length := by
  induction bytes with
  | nil => rfl
  | cons byte rest ih =>
    simp only [ofBytes, List.flatMap_cons, ofByte, List.length_append, List.length_cons,
      List.length_nil] at ih ⊢
    omega

theorem all_isDigit_ofBytes (bytes : List UInt8) : (ofBytes bytes).all isDigit = true := by
  induction bytes with
  | nil => rfl
  | cons byte rest ih =>
    have bound := byte.toNat_lt
    simp only [ofBytes, List.flatMap_cons, ofByte, List.cons_append, List.nil_append,
      List.all_cons, isDigit_digit (show byte.toNat / 16 < 16 by omega),
      isDigit_digit (Nat.mod_lt byte.toNat (by decide : 16 > 0)), Bool.true_and]
    exact ih

theorem toBytes?_map_toLower (text : List Char) :
    toBytes? (text.map Char.toLower) = toBytes? text := by
  fun_induction toBytes? text with
  | case1 => rfl
  | case2 => rfl
  | case3 high low rest h l bytes restRead lowRead highRead ih =>
    simp only [List.map_cons, toBytes?, digitValue?_toLower, ih, highRead, lowRead, restRead]
  | case4 high low rest unread ih =>
    simp only [List.map_cons, toBytes?, digitValue?_toLower, ih]

/-- Two digits of values `h` and `l` are the digits of the byte `16 * h + l`. -/
theorem ofByte_pair {h l : Nat} (high : h < 16) (low : l < 16) :
    ofByte (UInt8.ofNat (16 * h + l)) = [digit h, digit l] := by
  have fits : (UInt8.ofNat (16 * h + l)).toNat = 16 * h + l :=
    Nat.mod_eq_of_lt (by omega)
  have quotient : (16 * h + l) / 16 = h := by omega
  have remainder : (16 * h + l) % 16 = l := by omega
  simp only [ofByte, fits, quotient, remainder]

theorem toBytes?_eq_some_iff {text : List Char} {bytes : List UInt8} :
    toBytes? text = some bytes ↔ text.map Char.toLower = ofBytes bytes := by
  constructor
  · intro read
    fun_induction toBytes? text generalizing bytes with
    | case1 =>
      cases read
      rfl
    | case2 => contradiction
    | case3 high low rest h l tail restRead lowRead highRead ih =>
      cases read
      obtain ⟨highSmall, highLower⟩ := digitValue?_eq_some_iff.mp highRead
      obtain ⟨lowSmall, lowLower⟩ := digitValue?_eq_some_iff.mp lowRead
      simp only [List.map_cons, highLower, lowLower, ih restRead, ofBytes, List.flatMap_cons,
        ofByte_pair highSmall lowSmall, List.cons_append, List.nil_append]
    | case4 => contradiction
  · intro lowered
    rw [← toBytes?_map_toLower, lowered, toBytes?_ofBytes]

/-- Pairs of digits always stand for bytes. -/
theorem toBytes?_of_all_isDigit {text : List Char} (even : text.length % 2 = 0)
    (valid : text.all isDigit = true) : ∃ bytes, toBytes? text = some bytes := by
  fun_induction toBytes? text with
  | case1 => exact ⟨[], rfl⟩
  | case2 => simp at even
  | case3 high low rest h l bytes => exact ⟨_, rfl⟩
  | case4 high low rest unread ih =>
    simp only [List.all_cons, Bool.and_eq_true, List.length_cons] at even valid
    obtain ⟨h, highRead⟩ := Option.isSome_iff_exists.mp valid.1
    obtain ⟨l, lowRead⟩ := Option.isSome_iff_exists.mp valid.2.1
    obtain ⟨bytes, restRead⟩ := ih (by omega) valid.2.2
    exact absurd restRead (unread h l bytes highRead lowRead)

/-! Numbers -/

theorem value_map_toLower (text : List Char) : value (text.map Char.toLower) = value text := by
  simp only [value, List.foldl_map, digitValue?_toLower]

theorem all_isDigit_digits (n : Nat) : (digits n).all isDigit = true := by
  fun_induction digits n with
  | case1 n small => simp only [List.all_cons, isDigit_digit small, List.all_nil, Bool.and_true]
  | case2 n large ih =>
    simp only [List.all_append, ih, List.all_cons, List.all_nil, Bool.and_true, Bool.true_and]
    exact isDigit_digit (Nat.mod_lt _ (by decide))

theorem digits_zero : digits 0 = ['0'] := by
  rw [digits, if_pos (by decide)]
  rfl

/-- Sixteen times a positive number and a digit are written with that digit at the end. -/
theorem digits_step {n v : Nat} (positive : 0 < n) (small : v < 16) :
    digits (16 * n + v) = digits n ++ [digit v] := by
  rw [digits, if_neg (by omega), show (16 * n + v) / 16 = n by omega,
    show (16 * n + v) % 16 = v by omega]

theorem length_digits_le_iff (n width : Nat) :
    (digits n).length ≤ width + 1 ↔ n < 16 ^ (width + 1) := by
  induction width generalizing n with
  | zero =>
    rw [digits]
    split_ifs with small
    · simpa using small
    · have longer : 1 ≤ (digits (n / 16)).length := by
        rw [digits]
        split_ifs <;> simp
      simp only [List.length_append, List.length_singleton]
      omega
  | succ width ih =>
    rw [digits]
    split_ifs with small
    · have := Nat.one_le_pow (width + 1) 16 (by decide)
      simp only [List.length_singleton, Nat.pow_succ 16 (width + 1)]
      omega
    · have := ih (n / 16)
      simp only [List.length_append, List.length_singleton, Nat.pow_succ 16 (width + 1)]
      omega

theorem toLower_eq_zero_iff {c : Char} : c.toLower = '0' ↔ c = '0' := by
  constructor
  · intro lowered
    have code := toNat_toLower c
    rw [lowered] at code
    apply char_ext
    change 48 = _ at code
    change c.toNat = 48
    split_ifs at code <;> omega
  · rintro rfl
    rfl

/-- A canonical text is a single zero, or digits that start with another one. -/
theorem isCanonical_iff {text : List Char} : isCanonical text = true ↔ text = ['0'] ∨
    ∃ first rest, text = first :: rest ∧ first ≠ '0' ∧ text.all isDigit = true := by
  unfold isCanonical
  split
  · simp
  · simp
  · rename_i first rest other
    constructor
    · intro canonical
      simp only [Bool.and_eq_true, bne_iff_ne] at canonical
      exact Or.inr ⟨first, rest, rfl, canonical.1.1, by simp [canonical.1.2, canonical.2]⟩
    · rintro (single | ⟨_, _, same, nonzero, digits⟩)
      · cases single
        exact absurd rfl (other rfl)
      · cases same
        simpa [nonzero] using digits

theorem isCanonical_map_toLower (text : List Char) :
    isCanonical (text.map Char.toLower) = isCanonical text := by
  rw [Bool.eq_iff_iff, isCanonical_iff, isCanonical_iff, all_isDigit_map_toLower]
  cases text with
  | nil => simp
  | cons c rest => simp [toLower_eq_zero_iff]

/-- Digits that do not start with a zero make a positive number, and the number gives them back. -/
theorem digits_value_of_leading {first : Char} {rest : List Char} (nonzero : first ≠ '0')
    (valid : (first :: rest).all isDigit = true) :
    0 < value (first :: rest) ∧
      (first :: rest).map Char.toLower = digits (value (first :: rest)) := by
  induction rest using List.reverseRecOn with
  | nil =>
    simp only [List.all_cons, List.all_nil, Bool.and_true] at valid
    obtain ⟨n, found⟩ := Option.isSome_iff_exists.mp valid
    obtain ⟨small, lowered⟩ := digitValue?_eq_some_iff.mp found
    have positive : 0 < n := by
      by_contra none
      obtain rfl : n = 0 := by omega
      exact nonzero (toLower_eq_zero_iff.mp lowered)
    have number : value [first] = n := by simp [value, found]
    rw [number, digits, if_pos small]
    exact ⟨positive, by simp [lowered]⟩
  | append_singleton rest last ih =>
    rw [← List.cons_append, List.all_append, Bool.and_eq_true] at valid
    obtain ⟨positive, written⟩ := ih valid.1
    simp only [List.all_cons, List.all_nil, Bool.and_true] at valid
    obtain ⟨v, found⟩ := Option.isSome_iff_exists.mp valid.2
    obtain ⟨small, lowered⟩ := digitValue?_eq_some_iff.mp found
    rw [← List.cons_append, value_append_singleton, found, Option.getD_some,
      digits_step positive small, List.map_append, written, List.map_singleton, lowered]
    exact ⟨by omega, rfl⟩

theorem digits_value {text : List Char} (canonical : isCanonical text = true) :
    text.map Char.toLower = digits (value text) := by
  rcases isCanonical_iff.mp canonical with rfl | ⟨first, rest, rfl, nonzero, valid⟩
  · exact digits_zero.symm
  · exact (digits_value_of_leading nonzero valid).2

theorem isCanonical_digits (n : Nat) : isCanonical (digits n) = true := by
  have leading : ∀ n, 0 < n → ∃ first rest, digits n = first :: rest ∧ first ≠ '0' := by
    intro n
    fun_induction digits n with
    | case1 n small =>
      intro positive
      have all : ∀ m < 16, 0 < m → digit m ≠ '0' := by decide
      exact ⟨digit n, [], rfl, all n small positive⟩
    | case2 n large ih =>
      intro _
      obtain ⟨first, rest, written, nonzero⟩ := ih (by omega)
      exact ⟨first, rest ++ [digit (n % 16)], by rw [written, List.cons_append], nonzero⟩
  rw [isCanonical_iff]
  rcases Nat.eq_zero_or_pos n with rfl | positive
  · exact Or.inl digits_zero
  · obtain ⟨first, rest, written, nonzero⟩ := leading n positive
    exact Or.inr ⟨first, rest, written, nonzero, all_isDigit_digits n⟩

/-- Canonical digits are what writing their number gives, up to the case of the letters. -/
theorem canonical_value_iff {text : List Char} {n : Nat} :
    isCanonical text = true ∧ value text = n ↔ text.map Char.toLower = digits n := by
  constructor
  · rintro ⟨canonical, rfl⟩
    exact digits_value canonical
  · intro lowered
    rw [← isCanonical_map_toLower, ← value_map_toLower, lowered]
    exact ⟨isCanonical_digits n, value_digits n⟩

/-! Fixed width -/

theorem length_fixed (width n : Nat) : (fixed width n).length = width := by
  induction width generalizing n with
  | zero => rfl
  | succ width ih => rw [fixed, List.length_append, ih, List.length_singleton]

theorem all_isDigit_fixed (width n : Nat) : (fixed width n).all isDigit = true := by
  induction width generalizing n with
  | zero => rfl
  | succ width ih =>
    simp only [fixed, List.all_append, ih, List.all_cons, List.all_nil, Bool.and_true,
      Bool.true_and]
    exact isDigit_digit (Nat.mod_lt n (by decide))

theorem value_fixed {width n : Nat} (fits : n < 16 ^ width) : value (fixed width n) = n := by
  induction width generalizing n with
  | zero =>
    obtain rfl : n = 0 := Nat.lt_one_iff.mp fits
    rfl
  | succ width ih =>
    have high : n / 16 < 16 ^ width := by
      rw [Nat.div_lt_iff_lt_mul (by decide), ← Nat.pow_succ]
      exact fits
    rw [fixed, value_append_singleton, ih high, digitValue?_digit (Nat.mod_lt n (by decide)),
      Option.getD_some, Nat.div_add_mod]

end LayerTwo.Hex
