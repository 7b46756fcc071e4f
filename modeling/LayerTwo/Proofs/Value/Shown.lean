import LayerTwo.Value.Literal
import Mathlib

/-! Which values can be shown. A value is shown exactly if no integer anywhere in it has too many
digits, whatever else it holds. -/
namespace LayerTwo

namespace Decimal

theorem short_iff {n : Int} : Short n ↔ n.natAbs < 10 ^ maxDigits :=
  Nat.length_toDigits_le_iff (by decide) (by decide)

/-- Numbers of 256 bits are well within the limit. -/
theorem short_of_word {n : Int} (small : n.natAbs < 2 ^ 256) : Short n := by
  rw [short_iff]
  calc n.natAbs
    _ < 2 ^ 256 := small
    _ ≤ 10 ^ 256 := Nat.pow_le_pow_left (by decide) 256
    _ ≤ 10 ^ maxDigits := Nat.pow_le_pow_right (by decide) (by decide)

/-- The first integer with too many digits. -/
theorem not_short_pow : ¬Short (10 ^ maxDigits : Nat) := by
  rw [short_iff, Int.natAbs_natCast]
  exact lt_irrefl _

end Decimal

namespace Value

/-- The integer stands somewhere in the value. -/
inductive Contains (n : Int) : Value → Prop where
  | int : Contains n (.int n)
  | list {items : List Value} {item : Value} (member : item ∈ items) (inside : Contains n item) :
      Contains n (.list items)
  | tuple {items : List Value} {item : Value} (member : item ∈ items) (inside : Contains n item) :
      Contains n (.tuple items)
  | dict {entries : Entries} {entry : String × Value} (member : entry ∈ entries)
      (inside : Contains n entry.2) : Contains n (.dict entries)
  | model {kind : Kind} {fields : Entries} {field : String × Value} (member : field ∈ fields)
      (inside : Contains n field.2) : Contains n (.model kind fields)

/-- No integer in the value has too many digits. -/
def Short (value : Value) : Prop := ∀ n, value.Contains n → Decimal.Short n

/-! What is short in a value is short in its parts. -/

@[simp] theorem short_null : Short .null := by rintro n ⟨⟩

@[simp] theorem short_bool (b : Bool) : Short (.bool b) := by rintro n ⟨⟩

@[simp] theorem short_int_iff {n : Int} : Short (.int n) ↔ Decimal.Short n := by
  constructor
  · intro short
    exact short n .int
  · rintro short m ⟨⟩
    exact short

@[simp] theorem short_float (x : Float) : Short (.float x) := by rintro n ⟨⟩

@[simp] theorem short_str (s : String) : Short (.str s) := by rintro n ⟨⟩

@[simp] theorem short_bytes (octets : List UInt8) : Short (.bytes octets) := by rintro n ⟨⟩

@[simp] theorem short_list_iff {items : List Value} :
    Short (.list items) ↔ ∀ item ∈ items, item.Short := by
  constructor
  · intro short item member n inside
    exact short n (.list member inside)
  · intro short n contained
    cases contained with
    | list member inside => exact short _ member n inside

@[simp] theorem short_tuple_iff {items : List Value} :
    Short (.tuple items) ↔ ∀ item ∈ items, item.Short := by
  constructor
  · intro short item member n inside
    exact short n (.tuple member inside)
  · intro short n contained
    cases contained with
    | tuple member inside => exact short _ member n inside

@[simp] theorem short_dict_iff {entries : Entries} :
    Short (.dict entries) ↔ ∀ entry ∈ entries, entry.2.Short := by
  constructor
  · intro short entry member n inside
    exact short n (.dict member inside)
  · intro short n contained
    cases contained with
    | dict member inside => exact short _ member n inside

@[simp] theorem short_model_iff {kind : Kind} {fields : Entries} :
    Short (.model kind fields) ↔ ∀ field ∈ fields, field.2.Short := by
  constructor
  · intro short field member n inside
    exact short n (.model member inside)
  · intro short n contained
    cases contained with
    | model member inside => exact short _ member n inside

/-- What is put together from two texts is there if both are. -/
theorem isSome_both {α β γ : Type} (first : Option α) (second : Option β) (join : α → β → γ) :
    (do return join (← first) (← second)).isSome = (first.isSome && second.isSome) := by
  cases first <;> cases second <;> rfl

theorem isSome_return {α β : Type} (first : Option α) (f : α → β) :
    (do return f (← first)).isSome = first.isSome := by
  cases first <;> rfl

mutual

theorem isSome_literal?_iff : (value : Value) → (value.literal?.isSome = true ↔ value.Short)
  | .null => by simp [literal?]
  | .bool _ => by simp [literal?]
  | .int _ => by rw [literal?, Decimal.isSome_text?_iff, short_int_iff]
  | .float _ => by simp [literal?]
  | .str _ => by simp [literal?]
  | .bytes _ => by simp [literal?]
  | .list items => by rw [literal?, Option.isSome_map, isSome_itemLiterals?_iff items, short_list_iff]
  | .tuple items => by
    rw [literal?, Option.isSome_map, isSome_itemLiterals?_iff items, short_tuple_iff]
  | .dict entries => by
    rw [literal?, Option.isSome_map, isSome_entryLiterals?_iff entries, short_dict_iff]
  | .model _ fields => by
    rw [literal?, Option.isSome_map, isSome_fieldLiterals?_iff fields, short_model_iff]

theorem isSome_itemLiterals?_iff : (items : List Value) →
    ((itemLiterals? items).isSome = true ↔ ∀ item ∈ items, item.Short)
  | [] => by simp [itemLiterals?]
  | item :: rest => by
    rw [List.forall_mem_cons, itemLiterals?, isSome_both, Bool.and_eq_true, isSome_literal?_iff item,
      isSome_itemLiterals?_iff rest]

theorem isSome_entryLiterals?_iff : (entries : List (String × Value)) →
    ((entryLiterals? entries).isSome = true ↔ ∀ entry ∈ entries, entry.2.Short)
  | [] => by simp [entryLiterals?]
  | (key, value) :: rest => by
    rw [List.forall_mem_cons, entryLiterals?, isSome_both, Bool.and_eq_true, isSome_literal?_iff value,
      isSome_entryLiterals?_iff rest]

theorem isSome_fieldLiterals?_iff : (fields : List (String × Value)) →
    ((fieldLiterals? fields).isSome = true ↔ ∀ field ∈ fields, field.2.Short)
  | [] => by simp [fieldLiterals?]
  | (name, value) :: rest => by
    rw [List.forall_mem_cons, fieldLiterals?, isSome_both, Bool.and_eq_true, isSome_literal?_iff value,
      isSome_fieldLiterals?_iff rest]

end

theorem isSome_text?_iff {value : Value} : value.text?.isSome = true ↔ value.Short := by
  cases value with
  | str s => simp [text?]
  | model kind fields =>
    rw [text?, Option.isSome_map, isSome_fieldLiterals?_iff, short_model_iff]
  | _ => exact isSome_literal?_iff _

end Value

end LayerTwo
