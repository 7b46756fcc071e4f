import LayerTwo.Proofs.Message.Recheck
import LayerTwo.Workbench

/-! Records of models that came out of a check. Whichever way a transfer or a withdrawal is made,
from named inputs or from one value, its record is the record of a valid message, and of no other;
every valid message is made from its own fields. -/
namespace LayerTwo

open Schema

/-! A record determines its message -/

theorem Value.ofOption_injective {α : Type} {embed : α → Value} (injective : embed.Injective)
    (given : ∀ a, embed a ≠ .null) : (Value.ofOption embed).Injective := by
  intro a b same
  cases a with
  | none =>
    cases b with
    | none => rfl
    | some y => exact absurd same.symm (given y)
  | some x =>
    cases b with
    | none => exact absurd same (given x)
    | some y => exact congrArg some (injective same)

theorem AccessEntry.toValue_injective :
    Function.Injective fun entry : AccessEntry => entry.record.toValue := by
  rintro ⟨address, keys⟩ ⟨other, others⟩ same
  obtain ⟨_, fields⟩ := Value.model.inj same
  simp only [record, List.cons.injEq, Prod.mk.injEq, Value.str.injEq, Value.tuple.injEq,
    true_and, and_true] at fields
  obtain ⟨rfl, keys⟩ := fields
  rw [List.map_injective_iff.mpr (fun _ _ => Value.str.inj) keys]

theorem GasOptions.fields_injective : GasOptions.fields.Injective := by
  intro a b same
  have fee : (Value.ofOption Value.int).Injective :=
    Value.ofOption_injective (fun _ _ => Value.int.inj) (by simp)
  cases a
  cases b
  simp only [fields, List.cons.injEq, Prod.mk.injEq, Value.int.injEq, Value.tuple.injEq,
    fee.eq_iff, (List.map_injective_iff.mpr AccessEntry.toValue_injective).eq_iff,
    true_and, and_true] at same
  obtain ⟨rfl, rfl, rfl, rfl, rfl⟩ := same
  rfl

theorem Token.toValue_injective :
    Function.Injective fun token : Token => token.record.toValue := by
  intro a b same
  obtain ⟨kinds, fields⟩ := Value.model.inj same
  cases a with
  | native =>
    cases b with
    | native => rfl
    | erc20 => contradiction
  | erc20 address =>
    cases b with
    | native => contradiction
    | erc20 other =>
      cases fields
      rfl

theorem Transfer.record_injective : Transfer.record.Injective := by
  intro a b same
  have fields := congrArg Record.fields same
  obtain ⟨options, rest⟩ := List.append_inj fields rfl
  have kept := GasOptions.fields_injective options
  cases a
  cases b
  simp only [List.cons.injEq, Prod.mk.injEq, Value.str.injEq, Value.int.injEq,
    Token.toValue_injective.eq_iff, true_and, and_true] at kept rest
  obtain ⟨rfl, rfl, rfl, rfl⟩ := rest
  cases kept
  rfl

theorem Withdrawal.record_injective : Withdrawal.record.Injective := by
  intro a b same
  have fields := congrArg Record.fields same
  obtain ⟨options, rest⟩ := List.append_inj fields rfl
  have kept := GasOptions.fields_injective options
  have bridge : (Value.ofOption Value.str).Injective :=
    Value.ofOption_injective (fun _ _ => Value.str.inj) (by simp)
  cases a
  cases b
  simp only [List.cons.injEq, Prod.mk.injEq, Value.str.injEq, Value.int.injEq, bridge.eq_iff,
    Token.toValue_injective.eq_iff, true_and, and_true] at kept rest
  obtain ⟨rfl, rfl, rfl, rfl, rfl⟩ := rest
  cases kept
  rfl

/-! What is made is valid -/

/-- The record of a model of the given kind, made from named inputs or from one value. -/
inductive Record.Made (kind : Kind) (record : Record) : Prop where
  | ofInputs (inputs : Entries) (made : Record.make kind inputs = .ok record)
  | ofValue (value : Value) (made : Record.validate kind value = .ok record)

theorem Record.Made.inputs {kind : Kind} {record : Record} (made : record.Made kind) :
    ∃ inputs, Record.make kind inputs = .ok record := by
  cases made with
  | ofInputs inputs made => exact ⟨inputs, made⟩
  | ofValue value made =>
    unfold Record.validate at made
    split at made
    · exact ⟨_, made⟩
    · contradiction

theorem result_eq_ok_iff {α : Type} {kind : Kind} {checked : Checked α} {a : α} :
    checked.result kind = .ok a ↔ checked = .ok a := by
  cases checked <;> simp [Checked.result]

theorem result_map_eq_ok {α : Type} {kind : Kind} {checked : Checked α} {toRecord : α → Record}
    {record : Record} (made : (checked.map toRecord).result kind = .ok record) :
    ∃ a, checked = .ok a ∧ record = toRecord a := by
  cases checked with
  | ok a =>
    cases made
    exact ⟨a, rfl, rfl⟩
  | faulty issues => contradiction

theorem Record.Made.call {record : Record} (made : record.Made .call) :
    ∃ message : CallMessage, message.Valid ∧ record = message.record := by
  obtain ⟨inputs, made⟩ := made.inputs
  obtain ⟨message, checked, same⟩ := result_map_eq_ok made
  exact ⟨message, CallMessage.valid_of_check checked, same⟩

theorem Record.Made.transfer {record : Record} (made : record.Made .transfer) :
    ∃ transfer : Transfer, transfer.Valid ∧ record = transfer.record := by
  obtain ⟨inputs, made⟩ := made.inputs
  obtain ⟨transfer, checked, same⟩ := result_map_eq_ok made
  exact ⟨transfer, Transfer.valid_of_check checked, same⟩

theorem Transfer.valid_of_made {transfer : Transfer} (made : transfer.record.Made .transfer) :
    transfer.Valid := by
  obtain ⟨other, valid, same⟩ := made.transfer
  exact record_injective same ▸ valid

theorem Transfer.made_of_valid {transfer : Transfer} (valid : transfer.Valid) :
    transfer.record.Made .transfer := by
  refine .ofInputs transfer.record.fields ?_
  rw [Record.make, Transfer.check_of_valid valid]
  rfl

theorem Record.Made.withdrawal {record : Record} (made : record.Made .withdrawal) :
    ∃ withdrawal : Withdrawal, withdrawal.Valid ∧ record = withdrawal.record := by
  obtain ⟨inputs, made⟩ := made.inputs
  obtain ⟨withdrawal, checked, same⟩ := result_map_eq_ok made
  exact ⟨withdrawal, Withdrawal.valid_of_check checked, same⟩

theorem Withdrawal.valid_of_made {withdrawal : Withdrawal}
    (made : withdrawal.record.Made .withdrawal) : withdrawal.Valid := by
  obtain ⟨other, valid, same⟩ := made.withdrawal
  exact record_injective same ▸ valid

theorem Withdrawal.made_of_valid {withdrawal : Withdrawal} (valid : withdrawal.Valid) :
    withdrawal.record.Made .withdrawal := by
  refine .ofInputs withdrawal.record.fields ?_
  rw [Record.make, Withdrawal.check_of_valid valid]
  rfl

end LayerTwo
