import LayerTwo.Proofs.Hex.Spelling

/-! What the wire readers take. A reader accepts a text exactly when, in lower case, it is the
written form of what is read; data also has to have the size asked for, and a quantity to stay below
256 bits. -/
namespace LayerTwo.Hex

/-- The text is the given form up to the case of its letters. -/
def Spells (s form : String) : Prop := s.toList.map Char.toLower = form.toList

theorem toList_writeData (bytes : List UInt8) :
    (writeData bytes).toList = '0' :: 'x' :: ofBytes bytes := String.toList_ofList

theorem toList_writeQuantity (n : Nat) :
    (writeQuantity n).toList = '0' :: 'x' :: digits n := String.toList_ofList

theorem toLower_eq_mark_iff {c : Char} : c.toLower = 'x' ↔ c = 'x' ∨ c = 'X' := by
  constructor
  · intro lowered
    have code := toNat_toLower c
    rw [lowered] at code
    change 120 = _ at code
    split_ifs at code
    · exact Or.inr (char_ext (by change c.toNat = 88; omega))
    · exact Or.inl (char_ext (by change c.toNat = 120; omega))
  · rintro (rfl | rfl) <;> rfl

theorem unmark?_eq_some_iff {text rest : List Char} :
    unmark? text = some rest ↔ text = '0' :: 'x' :: rest ∨ text = '0' :: 'X' :: rest := by
  unfold unmark?
  split <;> simp_all

/-- A marked text in lower case is the mark and the rest in lower case. -/
theorem map_toLower_eq_marked_iff {text form : List Char} :
    text.map Char.toLower = '0' :: 'x' :: form ↔
      ∃ rest, unmark? text = some rest ∧ rest.map Char.toLower = form := by
  constructor
  · intro lowered
    obtain ⟨zero, tail, rfl, first, marked⟩ := List.map_eq_cons_iff.mp lowered
    obtain ⟨mark, rest, rfl, second, others⟩ := List.map_eq_cons_iff.mp marked
    obtain rfl := toLower_eq_zero_iff.mp first
    refine ⟨rest, unmark?_eq_some_iff.mpr ?_, others⟩
    rcases toLower_eq_mark_iff.mp second with rfl | rfl
    · exact Or.inl rfl
    · exact Or.inr rfl
  · rintro ⟨rest, unmarked, rfl⟩
    rcases unmark?_eq_some_iff.mp unmarked with rfl | rfl <;> rfl

theorem checkSize_eq_ok_iff {size : Option Int} {bytes octets : List UInt8} :
    checkSize size bytes = .ok octets ↔
      bytes = octets ∧ ∀ expected, size = some expected → expected = octets.length := by
  cases size with
  | none => simp [checkSize]
  | some expected =>
    simp only [checkSize]
    split_ifs with fits
    · constructor
      · intro same
        cases same
        exact ⟨rfl, fun _ given => by cases given; exact fits⟩
      · rintro ⟨rfl, _⟩
        rfl
    · simp only [Option.some.injEq, false_iff, not_and, not_forall]
      rintro rfl
      exact ⟨expected, rfl, fits⟩

theorem readData_eq_ok_iff {size : Option Int} {value : Value} {octets : List UInt8} :
    readData size value = .ok octets ↔ ∃ s, value = .str s ∧ Spells s (writeData octets) ∧
      ∀ expected, size = some expected → expected = octets.length := by
  constructor
  · intro read
    unfold readData at read
    split at read
    · rename_i s
      split at read <;> try contradiction
      rename_i text unmarked
      split_ifs at read
      split at read <;> try contradiction
      rename_i bytes found
      obtain ⟨rfl, sized⟩ := checkSize_eq_ok_iff.mp read
      refine ⟨s, rfl, ?_, sized⟩
      rw [Spells, toList_writeData]
      exact map_toLower_eq_marked_iff.mpr ⟨text, unmarked, toBytes?_eq_some_iff.mp found⟩
    · contradiction
  · rintro ⟨s, rfl, spelled, sized⟩
    rw [Spells, toList_writeData] at spelled
    obtain ⟨text, unmarked, lowered⟩ := map_toLower_eq_marked_iff.mp spelled
    have valid : text.all isDigit = true := by
      rw [← all_isDigit_map_toLower, lowered, all_isDigit_ofBytes]
    simp only [readData, unmarked, valid, if_true, toBytes?_eq_some_iff.mpr lowered]
    exact checkSize_eq_ok_iff.mpr ⟨rfl, sized⟩

/-- A quantity has no more digits than it may have exactly when it stays below 256 bits. -/
theorem length_digits_le_quantityDigits_iff (n : Nat) :
    (digits n).length ≤ quantityDigits ↔ n < 2 ^ 256 := by
  rw [show (2 : Nat) ^ 256 = 16 ^ (63 + 1) by norm_num]
  exact length_digits_le_iff n 63

theorem readQuantity_eq_ok_iff {value : Value} {n : Nat} :
    readQuantity value = .ok n ↔
      ∃ s, value = .str s ∧ Spells s (writeQuantity n) ∧ n < 2 ^ 256 := by
  have bound := length_digits_le_quantityDigits_iff n
  constructor
  · intro read
    unfold readQuantity at read
    split at read
    · rename_i s
      split at read <;> try contradiction
      rename_i text unmarked
      split_ifs at read with canonical short
      cases read
      have lowered := digits_value canonical
      refine ⟨s, rfl, ?_, bound.mp ?_⟩
      · rw [Spells, toList_writeQuantity]
        exact map_toLower_eq_marked_iff.mpr ⟨text, unmarked, lowered⟩
      · rw [← lowered, List.length_map]
        exact short
    · contradiction
  · rintro ⟨s, rfl, spelled, small⟩
    rw [Spells, toList_writeQuantity] at spelled
    obtain ⟨text, unmarked, lowered⟩ := map_toLower_eq_marked_iff.mp spelled
    obtain ⟨canonical, number⟩ := canonical_value_iff.mpr lowered
    have short : text.length ≤ quantityDigits := by
      rw [← List.length_map Char.toLower, lowered]
      exact bound.mpr small
    simp only [readQuantity, unmarked, canonical, if_true, short, number]

/-! What is written reads back -/

theorem readQuantity_writeQuantity (n : Nat) : readQuantity (.str (writeQuantity n)) =
    if n < 2 ^ 256 then .ok n else .error (.oversized (.str (writeQuantity n))) := by
  have unmarked : unmark? (writeQuantity n).toList = some (digits n) := by
    rw [toList_writeQuantity]
    rfl
  simp only [readQuantity, unmarked, isCanonical_digits, if_true, value_digits,
    length_digits_le_quantityDigits_iff]

theorem writeQuantity_injective : writeQuantity.Injective := by
  intro m n same
  have written := congrArg String.toList same
  rw [toList_writeQuantity, toList_writeQuantity, List.cons.injEq, List.cons.injEq] at written
  rw [← value_digits m, written.2.2, value_digits]

theorem readData_writeData (octets : List UInt8) :
    readData none (.str (writeData octets)) = .ok octets := by
  refine readData_eq_ok_iff.mpr ⟨writeData octets, rfl, ?_, by simp⟩
  have lower := toBytes?_eq_some_iff.mp (toBytes?_ofBytes octets)
  rw [Spells, toList_writeData, List.map_cons, List.map_cons, lower]
  rfl

theorem writeData_injective : writeData.Injective := by
  intro a b same
  have read := readData_writeData a
  rw [same, readData_writeData b] at read
  exact (Except.ok.inj read).symm

end LayerTwo.Hex
