import LayerTwo.Json.Raw
import LayerTwo.Proofs.Result
import LayerTwo.Proofs.Value.Shown

/-! What is read of a JSON text can be shown. The reader stops at an integer with too many digits, so
no value that it gives holds one. -/
namespace LayerTwo.Json

open LayerTwo.Decimal

variable {α β : Type}

/-! Integers -/

theorem foldl_digits_lt {digits : List Char} (all : ∀ c ∈ digits, c.isDigit = true) (start : Nat) :
    digits.foldl (fun n c => 10 * n + (c.toNat - 48)) start < (start + 1) * 10 ^ digits.length := by
  induction digits generalizing start with
  | nil => simp
  | cons c rest ih =>
    obtain ⟨digit, others⟩ := List.forall_mem_cons.mp all
    have small : c.toNat - 48 ≤ 9 := by
      have bounds : 48 ≤ c.toNat ∧ c.toNat ≤ 57 := Char.isDigit_iff_toNat.mp digit
      omega
    calc rest.foldl (fun n c => 10 * n + (c.toNat - 48)) (10 * start + (c.toNat - 48))
      _ < (10 * start + (c.toNat - 48) + 1) * 10 ^ rest.length := ih others _
      _ ≤ ((start + 1) * 10) * 10 ^ rest.length := Nat.mul_le_mul_right _ (by omega)
      _ = (start + 1) * 10 ^ (c :: rest).length := by rw [List.length_cons, pow_succ]; ring

theorem ofDigits_lt {digits : List Char} (all : ∀ c ∈ digits, c.isDigit = true) :
    ofDigits digits < 10 ^ digits.length := by
  simpa [ofDigits] using foldl_digits_lt all 0

theorem isDigit_of_takeWhole {text whole rest : List Char}
    (taken : takeWhole text = (whole, rest)) : ∀ c ∈ whole, c.isDigit = true := by
  unfold takeWhole at taken
  split at taken
  · cases taken
    simp
  · cases taken
    exact fun c member => List.mem_takeWhile_imp member

theorem isDigit_of_numeral? {text rest : List Char} {numeral : Numeral}
    (found : numeral? text = some (numeral, rest)) : ∀ c ∈ numeral.whole, c.isDigit = true := by
  simp only [numeral?] at found
  split_ifs at found
  cases found
  exact isDigit_of_takeWhole rfl

theorem short_of_value {numeral : Numeral} {value : Value}
    (digits : ∀ c ∈ numeral.whole, c.isDigit = true) (read : numeral.value = .ok value) :
    value.Short := by
  unfold Numeral.value at read
  split at read
  · split_ifs at read with long
    cases read
    have size : (withSign numeral.negative (ofDigits numeral.whole)).natAbs =
        ofDigits numeral.whole := by
      unfold withSign
      split_ifs <;> simp
    rw [Value.short_int_iff, short_iff, size]
    calc ofDigits numeral.whole
      _ < 10 ^ numeral.whole.length := ofDigits_lt digits
      _ ≤ 10 ^ maxDigits := Nat.pow_le_pow_right (by decide) (Nat.not_lt.mp long)
  · cases read
    exact Value.short_float _

/-! Tables -/

theorem mem_insertAt {key : String} {item : α} {table : List (String × α)} {entry : String × α}
    (member : entry ∈ insertAt key item table) : entry = (key, item) ∨ entry ∈ table := by
  induction table with
  | nil => exact Or.inl (List.mem_singleton.mp member)
  | cons first rest ih =>
    rw [insertAt] at member
    split_ifs at member with same
    · rcases List.mem_cons.mp member with rfl | member
      · exact Or.inl (by rw [same])
      · exact Or.inr (List.mem_cons_of_mem _ member)
    · rcases List.mem_cons.mp member with rfl | member
      · exact Or.inr List.mem_cons_self
      · exact (ih member).imp_right (List.mem_cons_of_mem _)

theorem short_insertAll {table : Entries} {pairs : List (String × Value)}
    (held : ∀ entry ∈ table, entry.2.Short) (short : ∀ pair ∈ pairs, pair.2.Short) :
    ∀ entry ∈ table.insertAll pairs, entry.2.Short := by
  induction pairs generalizing table with
  | nil => exact held
  | cons pair rest ih =>
    obtain ⟨first, others⟩ := List.forall_mem_cons.mp short
    refine ih (fun entry member => ?_) others
    rcases mem_insertAt member with rfl | member
    · exact first
    · exact held entry member

theorem short_ofPairs {pairs : List (String × Value)} (short : ∀ pair ∈ pairs, pair.2.Short) :
    ∀ entry ∈ Entries.ofPairs pairs, entry.2.Short :=
  short_insertAll (List.forall_mem_nil _) short

/-! Readings -/

/-- What is read, if anything is, has the property. -/
def Reading.Gives (reading : Reading α) (property : α → Prop) : Prop :=
  ∀ a rest, reading = .ok (a, rest) → property a

variable {property : α → Prop}

theorem gives_error (halt : Halt) : Reading.Gives (.error halt) property := by
  rintro a rest ⟨⟩

theorem gives_ok {a : α} (rest : List Char) (holds : property a) :
    Reading.Gives (.ok (a, rest)) property := by
  rintro _ _ ⟨⟩
  exact holds

theorem Reading.Gives.map {reading : Reading α} {conclusion : β → Prop} {f : α → β}
    (gives : reading.Gives property) (kept : ∀ a, property a → conclusion (f a)) :
    Reading.Gives (reading.map fun (a, rest) => (f a, rest)) conclusion := by
  intro b rest read
  obtain ⟨⟨a, left⟩, ok, same⟩ := Result.map_eq_ok_iff.mp read
  cases same
  exact kept a (gives a _ ok)

theorem gives_readNumber (text : List Char) : (readNumber text).Gives Value.Short := by
  unfold readNumber
  split
  · exact gives_error _
  · rename_i numeral rest found
    intro value left read
    obtain ⟨value, ok, same⟩ := Result.map_eq_ok_iff.mp read
    cases same
    exact short_of_value (isDigit_of_numeral? found) ok

theorem gives_readAtom (text : List Char) : (readAtom text).Gives Value.Short := by
  unfold readAtom
  split
  · exact gives_ok _ Value.short_null
  · exact gives_ok _ (Value.short_bool _)
  · exact gives_ok _ (Value.short_bool _)
  · exact gives_ok _ (Value.short_float _)
  · exact gives_ok _ (Value.short_float _)
  · exact gives_ok _ (Value.short_float _)
  · exact gives_readNumber _

/-- All that is read with the fuel can be shown. -/
structure ShortReadings (fuel : Nat) : Prop where
  value : ∀ text, (readValue fuel text).Gives Value.Short
  items : ∀ text, (readItems fuel text).Gives fun items => ∀ item ∈ items, item.Short
  members : ∀ text, (readMembers fuel text).Gives fun pairs => ∀ pair ∈ pairs, pair.2.Short

namespace ShortReadings

variable {fuel : Nat}

theorem value_succ (inner : ShortReadings fuel) (text : List Char) :
    (readValue (fuel + 1) text).Gives Value.Short := by
  rw [readValue.eq_def]
  cases text with
  | nil => exact gives_error _
  | cons c rest =>
    dsimp only
    split_ifs
    · have any : (readString rest).Gives fun _ => True := fun _ _ _ => trivial
      exact any.map fun s _ => Value.short_str s
    · split
      · exact gives_ok _ (Value.short_list_iff.mpr (List.forall_mem_nil _))
      · exact (inner.items _).map fun _ => Value.short_list_iff.mpr
    · split
      · exact gives_error _
      · split_ifs
        · exact gives_ok _ (Value.short_dict_iff.mpr (List.forall_mem_nil _))
        · exact (inner.members _).map fun _ short => Value.short_dict_iff.mpr (short_ofPairs short)
    · exact gives_readAtom _

theorem items_succ (inner : ShortReadings fuel) (text : List Char) :
    (readItems (fuel + 1) text).Gives fun items => ∀ item ∈ items, item.Short := by
  rw [readItems.eq_def]
  dsimp only
  split
  · exact gives_error _
  · rename_i item rest read
    have short := inner.value _ _ _ read
    split
    · exact gives_ok _ (List.forall_mem_singleton.mpr short)
    · exact (inner.items _).map fun _ others => List.forall_mem_cons.mpr ⟨short, others⟩
    · exact gives_error _

theorem members_succ (inner : ShortReadings fuel) (text : List Char) :
    (readMembers (fuel + 1) text).Gives fun pairs => ∀ pair ∈ pairs, pair.2.Short := by
  rw [readMembers.eq_def]
  cases text with
  | nil => exact gives_error _
  | cons c rest =>
    dsimp only
    split_ifs
    · split
      · exact gives_error _
      · split
        · split
          · exact gives_error _
          · rename_i value rest read
            have short := inner.value _ _ _ read
            split
            · exact (inner.members _).map fun _ others => List.forall_mem_cons.mpr ⟨short, others⟩
            · split_ifs
              · exact gives_ok _ (List.forall_mem_singleton.mpr short)
              · exact gives_error _
            · exact gives_error _
        · exact gives_error _
    · exact gives_error _

end ShortReadings

theorem shortReadings (fuel : Nat) : ShortReadings fuel := by
  induction fuel with
  | zero => exact ⟨fun _ => gives_error _, fun _ => gives_error _, fun _ => gives_error _⟩
  | succ fuel ih => exact ⟨ih.value_succ, ih.items_succ, ih.members_succ⟩

theorem short_of_decode {text : List Char} {value : Value} (read : decode text = .ok value) :
    value.Short := by
  have whole := Result.mapError_eq_ok_iff.mp read
  unfold readWhole at whole
  split at whole
  · contradiction
  · rename_i found rest ok
    split at whole
    · cases whole
      exact (shortReadings _).value _ _ _ ok
    · contradiction

/-- A raw payload that is read holds no integer with too many digits. -/
theorem short_of_readRaw {payload value : Value} (read : readRaw payload = .ok value) :
    value.Short := by
  unfold readRaw at read
  split at read
  · split at read
    · exact short_of_decode read
    · split_ifs at read
      exact short_of_decode read
  · split at read
    · exact short_of_decode read
    · contradiction
  · contradiction

end LayerTwo.Json
