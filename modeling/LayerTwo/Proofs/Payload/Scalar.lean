import LayerTwo.Proofs.Payload.Shown
import LayerTwo.Value.Conversion

/-! Hex quantities and hex data read by themselves. What is accepted is what is written, in either
case, within the size there is; everything else is a parse error of the field that it was read for,
with the first fault that applies. -/
namespace LayerTwo.Payload

open Hex Operation
open Value (toQuantity toQuantity_of_nonneg toQuantity_of_negative toQuantity_natCast)

variable {σ α : Type} {field : Option String} {value : Value} {size : Option Int} {state : σ}
  {fault : Hex.Fault} {n : Nat} {bytes : List UInt8}

/-! A reading with its field -/

theorem result_parsed (field : Option String) (read : Except Hex.Fault α) (state : σ) :
    (parsed .wire (ParseError.ofHex field read) state).result =
      read.mapError fun fault => raised (.parse ⟨.hex fault, field⟩) := by
  rw [answers_parsed .wire (ParseError.ofHex field read) state]
  cases read <;> rfl

/-- Where every fault can be shown, it is raised as it is. -/
theorem result_parsed_of_shown {read : Except Hex.Fault α}
    (shown : ∀ fault, read = .error fault → (fault.message? field).isSome = true) (state : σ) :
    (parsed .wire (ParseError.ofHex field read) state).result =
      read.mapError fun fault => .parse ⟨.hex fault, field⟩ := by
  rw [result_parsed]
  cases read with
  | ok a => rfl
  | error fault =>
    have own : raised (.parse ⟨.hex fault, field⟩) = .parse ⟨.hex fault, field⟩ :=
      raised_of_isSome (shown fault rfl)
    rw [Except.mapError, Except.mapError, own]

theorem result_parsed_eq_ok_iff {read : Except Hex.Fault α} {a : α} :
    (parsed .wire (ParseError.ofHex field read) state).result = .ok a ↔ read = .ok a := by
  rw [result_parsed, Result.mapError_eq_ok_iff]

/-! Quantities -/

theorem toQuantity_int (n : Int) :
    toQuantity (.int n) = if n < 0 then .error (.badValue (.negativeQuantity (.int n)))
      else .ok ("0x" ++ String.ofList (Nat.toDigits 16 n.toNat)) := by
  by_cases negative : n < 0
  · rw [if_pos negative, toQuantity_of_negative negative]
  · rw [if_neg negative, toQuantity_of_nonneg (Int.not_lt.mp negative), writeQuantity_eq]

theorem toQuantity_bool (b : Bool) : toQuantity (.bool b) = toQuantity (.int b.toInt) := by
  cases b <;> rfl

theorem result_quantity (field : Option String) (value : Value) (state : σ) :
    (quantity field value state).result =
      (readQuantity value).mapError fun fault => .parse ⟨.hex fault, field⟩ :=
  result_parsed_of_shown (fun _ failed => isSome_message?_of_readQuantity failed field) state

theorem quantity_eq_ok_iff : (quantity field value state).result = .ok n ↔
    ∃ s, value = .str s ∧ Spells s (writeQuantity n) ∧ n < 2 ^ 256 :=
  result_parsed_eq_ok_iff.trans readQuantity_eq_ok_iff

/-- What is accepted for a number, by what the number is written as. -/
theorem quantity_eq_ok_iff_toQuantity : (quantity field value state).result = .ok n ↔
    ∃ s form, value = .str s ∧ n < 2 ^ 256 ∧ toQuantity (.int n) = .ok form ∧ Spells s form := by
  rw [quantity_eq_ok_iff]
  constructor
  · rintro ⟨s, rfl, spells, small⟩
    exact ⟨s, _, rfl, small, toQuantity_natCast n, spells⟩
  · rintro ⟨s, form, rfl, small, written, spells⟩
    cases (toQuantity_natCast n).symm.trans written
    exact ⟨s, rfl, spells, small⟩

/-- What is accepted for a number, by its characters: only the mark and the case of the digits are
left open. -/
theorem quantity_text_eq_ok_iff {s : String} : (quantity field (.str s) state).result = .ok n ↔
    n < 2 ^ 256 ∧ ∃ text, (s.toList = '0' :: 'x' :: text ∨ s.toList = '0' :: 'X' :: text) ∧
      text.map Char.toLower = Nat.toDigits 16 n := by
  simp only [quantity_eq_ok_iff, Value.str.injEq, exists_eq_left', spells_writeQuantity_iff,
    unmark?_eq_some_iff, digits_eq_toDigits]
  exact And.comm

theorem quantity_of_toQuantity {form : String} (written : toQuantity (.int n) = .ok form) :
    (quantity field (.str form) state).result = if n < 2 ^ 256 then .ok n
      else .error (.parse ⟨.hex (.oversized (.str form)), field⟩) := by
  cases (toQuantity_natCast n).symm.trans written
  rw [result_quantity, readQuantity_writeQuantity]
  by_cases small : n < 2 ^ 256
  · rw [if_pos small, if_pos small]
    rfl
  · rw [if_neg small, if_neg small]
    rfl

theorem quantity_eq_error_iff :
    (quantity field value state).result = .error (.parse ⟨.hex fault, field⟩) ↔
      QuantityRefused value fault := by
  rw [result_quantity, Result.mapError_eq_error_iff, ← readQuantity_eq_error_iff]
  simp

/-- A number is written in lower-case hex without leading zeros, unless it is negative. A value is
read as a number of at most 256 bits exactly if it is that text up to the case of its letters, the
mark included, and is refused for its field otherwise; what is written reads back up to that bound. -/
theorem quantity_spellings (state : σ) :
    (∀ b : Bool, toQuantity (.bool b) = toQuantity (.int b.toInt)) ∧
    (∀ n : Int, toQuantity (.int n) = if n < 0 then .error (.badValue (.negativeQuantity (.int n)))
      else .ok ("0x" ++ String.ofList (Nat.toDigits 16 n.toNat))) ∧
    (∀ field value n, (quantity field value state).result = .ok n ↔
      ∃ s form, value = .str s ∧ n < 2 ^ 256 ∧ toQuantity (.int n) = .ok form ∧ Spells s form) ∧
    (∀ field s n, (quantity field (.str s) state).result = .ok n ↔
      n < 2 ^ 256 ∧ ∃ text, (s.toList = '0' :: 'x' :: text ∨ s.toList = '0' :: 'X' :: text) ∧
        text.map Char.toLower = Nat.toDigits 16 n) ∧
    (∀ field value, (∃ n, (quantity field value state).result = .ok n) ∨
      ∃ fault, (quantity field value state).result = .error (.parse ⟨.hex fault, field⟩)) ∧
    (∀ field value fault, (quantity field value state).result = .error (.parse ⟨.hex fault, field⟩) ↔
      QuantityRefused value fault) ∧
    ∀ (field : Option String) (n : Nat) (form : String), toQuantity (.int n) = .ok form →
      (quantity field (.str form) state).result = if n < 2 ^ 256 then .ok n
        else .error (.parse ⟨.hex (.oversized (.str form)), field⟩) := by
  refine ⟨toQuantity_bool, toQuantity_int, ?_, ?_, ?_, ?_, ?_⟩
  · intro field value n
    exact quantity_eq_ok_iff_toQuantity
  · intro field s n
    exact quantity_text_eq_ok_iff
  · intro field value
    rw [result_quantity]
    cases readQuantity value with
    | ok n => exact Or.inl ⟨n, rfl⟩
    | error fault => exact Or.inr ⟨fault, rfl⟩
  · intro field value fault
    exact quantity_eq_error_iff
  · intro field n form written
    exact quantity_of_toQuantity written

/-- Capitals are read like small letters, and the first number beyond the bound does not read back. -/
theorem quantity_spellings_capitals :
    (quantity (some "gas") (.str "0X1aF") ()).result = .ok 431 ∧
      ∃ form, toQuantity (.int (2 ^ 256 : Nat)) = .ok form ∧ (quantity none (.str form) ()).result =
        .error (.parse ⟨.hex (.oversized (.str form)), none⟩) := by
  obtain ⟨_, _, _, spelled, _, _, readBack⟩ := quantity_spellings ()
  have digits : "1aF".toList.map Char.toLower = Nat.toDigits 16 431 := by decide
  have written := toQuantity_natCast (2 ^ 256)
  refine ⟨(spelled _ _ _).mpr ⟨by norm_num, _, Or.inr rfl, digits⟩, _, written, ?_⟩
  rw [readBack none (2 ^ 256) _ written, if_neg (lt_irrefl _)]

/-! Data -/

/-- No integer in the value has too many digits, nor has the size. -/
def Showable (value : Value) (size : Option Int) : Prop :=
  value.Short ∧ ∀ expected ∈ size, Decimal.Short expected

end LayerTwo.Payload
