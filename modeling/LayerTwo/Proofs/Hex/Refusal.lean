import LayerTwo.Proofs.Address.Checksum
import LayerTwo.Proofs.Hex.Reading

/-! Why the wire readers refuse a value. A quantity is refused for its type, then for its form, then
for its size; data is refused for its form, then for an odd number of digits, then for its size. Each
refusal is stated by what the value is, so that the first of them that applies is the one given. -/
namespace LayerTwo.Hex

open Address (IsHexDigit isHexDigit_iff)

variable {s : String} {letters text : List Char} {n : Nat} {value : Value} {fault : Fault}
  {size : Option Int}

/-! Quantities -/

theorem digit_eq_digitChar (small : n < 16) : digit n = Nat.digitChar n := by
  have all : ∀ m < 16, digit m = Nat.digitChar m := by decide
  exact all n small

theorem digits_eq_toDigits (n : Nat) : digits n = Nat.toDigits 16 n := by
  fun_induction digits n with
  | case1 n small => rw [Nat.toDigits_of_lt_base small, digit_eq_digitChar small]
  | case2 n large ih =>
    rw [Nat.toDigits_of_base_le (by decide) (Nat.not_lt.mp large), ih,
      digit_eq_digitChar (Nat.mod_lt n (by decide))]

theorem writeQuantity_eq (n : Nat) :
    writeQuantity n = "0x" ++ String.ofList (Nat.toDigits 16 n) := by
  rw [writeQuantity, digits_eq_toDigits, String.ofList_cons, String.ofList_cons]
  rfl

/-- A text spells the quantity exactly when its digits do, behind a mark of either case. -/
theorem spells_writeQuantity_iff : Spells s (writeQuantity n) ↔
    ∃ text, unmark? s.toList = some text ∧ text.map Char.toLower = digits n := by
  rw [Spells, toList_writeQuantity, map_toLower_eq_marked_iff]

theorem readQuantity_of_spells (spells : Spells s (writeQuantity n)) : readQuantity (.str s) =
    if n < 2 ^ 256 then .ok n else .error (.oversized (.str s)) := by
  obtain ⟨text, unmarked, lowered⟩ := spells_writeQuantity_iff.mp spells
  obtain ⟨canonical, number⟩ := canonical_value_iff.mpr lowered
  have width : text.length = (digits n).length := by rw [← lowered, List.length_map]
  simp only [readQuantity, unmarked, canonical, if_true, number, width,
    length_digits_le_quantityDigits_iff]

theorem readQuantity_of_not_spells (none : ∀ n, ¬Spells s (writeQuantity n)) :
    readQuantity (.str s) = .error (.notQuantity (.str s)) := by
  cases unmarked : unmark? s.toList with
  | none => simp only [readQuantity, unmarked]
  | some text =>
    have other : isCanonical text = false := by
      rw [Bool.eq_false_iff]
      intro canonical
      exact none _ (spells_writeQuantity_iff.mpr ⟨text, unmarked, digits_value canonical⟩)
    simp only [readQuantity, unmarked, other, Bool.false_eq_true, if_false]

/-- What is wrong with a value that is no quantity of at most 256 bits. -/
inductive QuantityRefused : Value → Fault → Prop where
  | notText {value : Value} (other : ∀ s, value ≠ .str s) :
      QuantityRefused value (.notText value.typeName)
  | notQuantity {s : String} (other : ∀ n, ¬Spells s (writeQuantity n)) :
      QuantityRefused (.str s) (.notQuantity (.str s))
  | oversized {s : String} {n : Nat} (spells : Spells s (writeQuantity n)) (large : 2 ^ 256 ≤ n) :
      QuantityRefused (.str s) (.oversized (.str s))

theorem readQuantity_of_refused (refused : QuantityRefused value fault) :
    readQuantity value = .error fault := by
  cases refused with
  | notText other =>
    cases value with
    | str s => exact absurd rfl (other s)
    | _ => rfl
  | notQuantity other => exact readQuantity_of_not_spells other
  | oversized spells large =>
    rw [readQuantity_of_spells spells, if_neg (Nat.not_lt.mpr large)]

theorem refused_of_readQuantity (failed : readQuantity value = .error fault) :
    QuantityRefused value fault := by
  by_cases isText : ∃ s, value = .str s
  · obtain ⟨s, rfl⟩ := isText
    by_cases spelled : ∃ n, Spells s (writeQuantity n)
    · obtain ⟨n, spells⟩ := spelled
      rw [readQuantity_of_spells spells] at failed
      split_ifs at failed with small
      cases failed
      exact .oversized spells (Nat.not_lt.mp small)
    -- leading zeros, signs, blanks and digits of other scripts all end here
    · have other := not_exists.mp spelled
      rw [readQuantity_of_not_spells other] at failed
      cases failed
      exact .notQuantity other
  · have other := not_exists.mp isText
    have refused := readQuantity_of_refused (.notText other)
    cases refused.symm.trans failed
    exact .notText other

theorem readQuantity_eq_error_iff : readQuantity value = .error fault ↔ QuantityRefused value fault :=
  ⟨refused_of_readQuantity, readQuantity_of_refused⟩

/-! Data -/

/-- The text is hex digits, of either case, behind a mark. -/
structure IsHex (s : String) (letters : List Char) : Prop where
  text : s.toList = '0' :: 'x' :: letters ∨ s.toList = '0' :: 'X' :: letters
  digits : ∀ c ∈ letters, IsHexDigit c

theorem isHex_iff :
    IsHex s letters ↔ unmark? s.toList = some letters ∧ letters.all isDigit = true := by
  simp only [unmark?_eq_some_iff, List.all_eq_true, ← isHexDigit_iff]
  exact ⟨fun ⟨text, digits⟩ => ⟨text, digits⟩, fun ⟨text, digits⟩ => ⟨text, digits⟩⟩

theorem readData_of_not_isHex (other : ∀ letters, ¬IsHex s letters) :
    readData size (.str s) = .error (.notData (.str s)) := by
  cases unmarked : unmark? s.toList with
  | none => simp only [readData, unmarked]
  | some text =>
    have invalid : text.all isDigit = false := by
      rw [Bool.eq_false_iff]
      intro valid
      exact other text (isHex_iff.mpr ⟨unmarked, valid⟩)
    simp only [readData, unmarked, invalid, Bool.false_eq_true, if_false]

/-! Hex digits stand for bytes exactly if there is an even number of them. -/

theorem length_of_toBytes? {bytes : List UInt8} (found : toBytes? letters = some bytes) :
    letters.length = 2 * bytes.length := by
  rw [← length_ofBytes, ← toBytes?_eq_some_iff.mp found, List.length_map]

theorem readData_of_toBytes? {bytes : List UInt8} (shape : IsHex s letters)
    (found : toBytes? letters = some bytes) : readData size (.str s) = checkSize size bytes := by
  obtain ⟨unmarked, valid⟩ := isHex_iff.mp shape
  simp only [readData, unmarked, valid, if_true, found]

theorem readData_of_odd (shape : IsHex s letters) (odd : letters.length % 2 = 1) :
    readData size (.str s) = .error (.oddLength (.str s)) := by
  obtain ⟨unmarked, valid⟩ := isHex_iff.mp shape
  have unread : toBytes? letters = none := by
    rw [Option.eq_none_iff_forall_ne_some]
    intro bytes found
    have := length_of_toBytes? found
    omega
  simp only [readData, unmarked, valid, if_true, unread]

/-- What is wrong with a value that is no data of the size. -/
inductive DataRefused : Value → Option Int → Fault → Prop where
  | notData {value : Value} {size : Option Int}
      (other : ∀ s letters, value = .str s → ¬IsHex s letters) :
      DataRefused value size (.notData value)
  | oddLength {s : String} {letters : List Char} {size : Option Int} (shape : IsHex s letters)
      (odd : letters.length % 2 = 1) : DataRefused (.str s) size (.oddLength (.str s))
  | wrongSize {s : String} {letters : List Char} {expected : Int} {count : Nat}
      (shape : IsHex s letters) (even : letters.length = 2 * count) (other : expected ≠ count) :
      DataRefused (.str s) (some expected) (.wrongSize expected count)

theorem readData_of_refused (refused : DataRefused value size fault) :
    readData size value = .error fault := by
  cases refused with
  | notData other =>
    cases value with
    | str s => exact readData_of_not_isHex fun letters => other s letters rfl
    | _ => rfl
  | oddLength shape odd => exact readData_of_odd shape odd
  | @wrongSize s letters expected count shape even other =>
    obtain ⟨bytes, found⟩ := toBytes?_of_all_isDigit (by omega) (isHex_iff.mp shape).2
    obtain rfl : count = bytes.length := by
      have := length_of_toBytes? found
      omega
    rw [readData_of_toBytes? shape found, checkSize, if_neg other]

theorem refused_of_readData (failed : readData size value = .error fault) :
    DataRefused value size fault := by
  by_cases shaped : ∃ s letters, value = .str s ∧ IsHex s letters
  · obtain ⟨s, letters, rfl, shape⟩ := shaped
    -- only an even number of digits comes as far as the size
    rcases Nat.mod_two_eq_zero_or_one letters.length with even | odd
    · obtain ⟨bytes, found⟩ := toBytes?_of_all_isDigit even (isHex_iff.mp shape).2
      rw [readData_of_toBytes? shape found] at failed
      cases size with
      | none => contradiction
      | some expected =>
        rw [checkSize] at failed
        split_ifs at failed with fits
        cases failed
        exact .wrongSize shape (length_of_toBytes? found) fits
    · cases (readData_of_refused (.oddLength shape odd)).symm.trans failed
      exact .oddLength shape odd
  · have other : ∀ s letters, value = .str s → ¬IsHex s letters :=
      fun s letters same shape => shaped ⟨s, letters, same, shape⟩
    cases (readData_of_refused (.notData other)).symm.trans failed
    exact .notData other

end LayerTwo.Hex
