import LayerTwo.Message.Params
import LayerTwo.Proofs.Hex.Reading
import LayerTwo.Proofs.Message.Made
import LayerTwo.Proofs.Result

/-! The parameters of a call message in closed form. Each key has a row, which is either shown or
left out; the two renderings show the same rows and differ only in how they write quantities. -/
namespace LayerTwo

/-- The rows that are not empty. -/
def present {α : Type} (rows : List (String × Option α)) : List (String × α) :=
  rows.flatMap fun (key, item) => item.toList.map (key, ·)

section Present

variable {α : Type} {rows : List (String × Option α)} {key : String} {item : α}

theorem mem_present : (key, item) ∈ present rows ↔ (key, some item) ∈ rows := by
  simp only [present, List.mem_flatMap, List.mem_map, Option.mem_toList, Prod.exists,
    Prod.mk.injEq]
  constructor
  · rintro ⟨name, _, member, _, rfl, rfl, rfl⟩
    exact member
  · intro member
    exact ⟨key, some item, member, item, rfl, rfl, rfl⟩

theorem keys_present_sublist : ((present rows).map (·.1)).Sublist (rows.map (·.1)) := by
  induction rows with
  | nil => exact .slnil
  | cons row rest ih =>
    obtain ⟨name, item⟩ := row
    cases item with
    | none => exact ih.cons name
    | some item => exact ih.cons_cons name

/-- A key holds what its row does. -/
theorem lookup_present (distinct : (rows.map (·.1)).Nodup) :
    (present rows).lookup key = (rows.lookup key).join := by
  induction rows with
  | nil => rfl
  | cons row rest ih =>
    obtain ⟨name, item⟩ := row
    simp only [List.map_cons, List.nodup_cons] at distinct
    have others := ih distinct.2
    have split : present ((name, item) :: rest) = item.toList.map (name, ·) ++ present rest := rfl
    rw [split, List.lookup_append, List.lookup_cons]
    by_cases same : key = name
    · subst same
      have absent : (present rest).lookup key = none := by
        rw [List.lookup_eq_none_iff]
        intro entry member
        have other : key ≠ entry.1 := by
          rintro rfl
          exact distinct.1 (keys_present_sublist.subset (List.mem_map.mpr ⟨_, member, rfl⟩))
        exact bne_iff_ne.mpr other
      rw [absent, beq_self_eq_true]
      cases item <;> simp
    · have other := beq_false_of_ne same
      rw [other, others]
      cases item <;> simp [List.lookup_cons, other]

end Present

/-! Rows of a message -/

/-- What is shown of a message under a key. -/
inductive Shown where
  | quantity (n : Int)
  | text (s : String)
  | accessList (entries : List AccessEntry)

/-- An entry of the access list as a parameter. -/
def AccessEntry.param (entry : AccessEntry) : Value :=
  .dict [("address", .str entry.address), ("storageKeys", .list (entry.storageKeys.map .str))]

namespace Shown

def isQuantity : Shown → Bool
  | .quantity _ => true
  | _ => false

/-- The shown thing as a value, with quantities written in the given way. -/
def write (quantity : Int → Value) : Shown → Value
  | .quantity n => quantity n
  | .text s => .str s
  | .accessList entries => .list (entries.map AccessEntry.param)

/-- A quantity as a hex text. -/
def hexQuantity (n : Int) : Value := .str (Hex.writeQuantity n.toNat)

end Shown

namespace CallMessage

/-- What a message shows under each key. Data, gas limit and access list are left out when they are
empty or zero, the recipient and the fees when they are not set. -/
def rows (message : CallMessage) : List (String × Option Shown) := [
  ("from", some (.text message.sender)),
  ("value", some (.quantity message.value)),
  ("to", message.recipient.map .text),
  ("data", (Option.guard (!·.isEmpty) message.data).map fun octets => .text (Hex.writeData octets)),
  ("gas", (Option.guard (· != 0) message.options.gas).map .quantity),
  ("gasPrice", message.options.gasPrice.map .quantity),
  ("maxFeePerGas", message.options.feeCap.map .quantity),
  ("maxPriorityFeePerGas", message.options.tipCap.map .quantity),
  ("accessList", (Option.guard (!·.isEmpty) message.options.accessList).map .accessList)]

/-- The message as parameters, with quantities written in the given way. -/
def rendered (quantity : Int → Value) (message : CallMessage) : Entries :=
  (present message.rows).map fun (key, shown) => (key, shown.write quantity)

variable {message : CallMessage}

theorem distinct_rows (message : CallMessage) : (message.rows.map (·.1)).Nodup := by
  change ["from", "value", "to", "data", "gas", "gasPrice", "maxFeePerGas", "maxPriorityFeePerGas",
    "accessList"].Nodup
  decide

theorem keys_rendered (quantity : Int → Value) (message : CallMessage) :
    (message.rendered quantity).map (·.1) = (present message.rows).map (·.1) := by
  rw [rendered, List.map_map]
  rfl

theorem distinct_rendered (quantity : Int → Value) (message : CallMessage) :
    ((message.rendered quantity).map (·.1)).Nodup := by
  rw [keys_rendered]
  exact message.distinct_rows.sublist keys_present_sublist

theorem lookup_rendered (quantity : Int → Value) (message : CallMessage) (key : String) :
    (message.rendered quantity).lookup key =
      (message.rows.lookup key).join.map (Shown.write quantity) := by
  rw [rendered, ← lookup_present message.distinct_rows]
  induction present message.rows with
  | nil => rfl
  | cons row rest ih =>
    rw [List.map_cons, List.lookup_cons, List.lookup_cons, ih]
    cases key == row.1 <;> rfl

/-- Quantities are shown under the keys of quantities and nowhere else. -/
theorem isQuantity_of_mem {key : String} {shown : Shown}
    (member : (key, some shown) ∈ message.rows) :
    shown.isQuantity = decide (key ∈ Record.quantityKeys) := by
  simp only [rows, List.mem_cons, Prod.mk.injEq, List.not_mem_nil, or_false] at member
  rcases member with ⟨rfl, same⟩ | ⟨rfl, same⟩ | ⟨rfl, same⟩ | ⟨rfl, same⟩ | ⟨rfl, same⟩ |
    ⟨rfl, same⟩ | ⟨rfl, same⟩ | ⟨rfl, same⟩ | ⟨rfl, same⟩
  · cases same
    rfl
  · cases same
    rfl
  all_goals
    obtain ⟨_, _, rfl⟩ := Option.map_eq_some_iff.mp same.symm
    rfl

/-! The parameters of a record -/

/-- The parameter of a row, if the row is shown. -/
def single (key : String) (shown : Option Shown) : Entries :=
  shown.toList.map fun item => (key, item.write .int)

theorem rendered_eq_flatMap (message : CallMessage) :
    message.rendered .int = message.rows.flatMap fun row => single row.1 row.2 := by
  simp only [rendered, present, List.map_flatMap, List.map_map]
  rfl

theorem paramIf_guard {α : Type} (shows : α → Bool) (a : α) (key : String) (embed : α → Shown) :
    Record.paramIf (shows a) key (.ok ((embed a).write .int)) =
      .ok (single key ((Option.guard shows a).map embed)) := by
  unfold Option.guard
  cases shows a <;> rfl

theorem paramUnlessNull_text (key : String) (text : Option String) :
    Record.paramUnlessNull key (.ofOption .str text) = single key (text.map .text) := by
  cases text <;> rfl

theorem paramUnlessNull_fee (key : String) (fee : Option Int) :
    Record.paramUnlessNull key (.ofOption .int fee) = single key (fee.map .quantity) := by
  cases fee <;> rfl

theorem accessParams_entries (entries : List AccessEntry) :
    Record.accessParams (.tuple (entries.map fun entry => entry.record.toValue)) =
      .ok (.list (entries.map AccessEntry.param)) := by
  have each : (entries.map fun entry => entry.record.toValue).mapM Record.accessParam =
      .ok (entries.map AccessEntry.param) := by
    rw [Result.mapM_eq_ok_iff, List.forall₂_map_left_iff, List.forall₂_map_right_iff,
      List.forall₂_same]
    intro entry _
    rfl
  simp only [Record.accessParams, Abi.itemsOf?, each]
  rfl

theorem params_record (message : CallMessage) :
    message.record.params = .ok (message.rendered .int) := by
  obtain ⟨⟨gas, gasPrice, feeCap, tipCap, accessList⟩, sender, recipient, value, data⟩ := message
  have dataRow := paramIf_guard (!·.isEmpty) data "data" fun octets => .text (Hex.writeData octets)
  have gasRow := paramIf_guard (· != 0) gas "gas" .quantity
  have accessRow := paramIf_guard (!·.isEmpty) accessList "accessList" .accessList
  have nonempty : (Value.tuple (accessList.map fun entry => entry.record.toValue)).truthy =
      !accessList.isEmpty := by
    simp only [Value.truthy, List.isEmpty_map]
  have unfolded : (CallMessage.record ⟨⟨gas, gasPrice, feeCap, tipCap, accessList⟩, sender,
      recipient, value, data⟩).params = (do
        let dataPart ← Record.paramIf (!data.isEmpty) "data" (.ok (.str (Hex.writeData data)))
        let gasPart ← Record.paramIf (gas != 0) "gas" (.ok (.int gas))
        let accessPart ← Record.paramIf
          (Value.tuple (accessList.map fun entry => entry.record.toValue)).truthy "accessList"
          (Record.accessParams (.tuple (accessList.map fun entry => entry.record.toValue)))
        return [("from", .str sender), ("value", .int value)] ++
          Record.paramUnlessNull "to" (.ofOption .str recipient) ++ dataPart ++ gasPart ++
          Record.paramUnlessNull "gasPrice" (.ofOption .int gasPrice) ++
          Record.paramUnlessNull "maxFeePerGas" (.ofOption .int feeCap) ++
          Record.paramUnlessNull "maxPriorityFeePerGas" (.ofOption .int tipCap) ++ accessPart) :=
    rfl
  rw [unfolded, nonempty, accessParams_entries]
  simp only [Shown.write] at dataRow gasRow accessRow
  rw [dataRow, gasRow, accessRow]
  simp only [paramUnlessNull_text, paramUnlessNull_fee, rendered_eq_flatMap, rows,
    List.flatMap_cons, List.flatMap_nil]
  change Except.ok _ = Except.ok _
  simp only [List.append_assoc, List.append_nil]
  rfl

/-! Quantities in hex -/

/-- The number is one that the message shows as a quantity. -/
def Counts (message : CallMessage) (n : Int) : Prop :=
  ∃ key, (key, some (.quantity n)) ∈ message.rows

/-- A gas limit of zero is not shown, every other number is. -/
theorem counts_iff {n : Int} : message.Counts n ↔
    n = message.value ∨ n = message.options.gas ∧ n ≠ 0 ∨ message.options.gasPrice = some n ∨
      message.options.feeCap = some n ∨ message.options.tipCap = some n := by
  have gas : some (Shown.quantity n) =
      (Option.guard (· != 0) message.options.gas).map .quantity ↔
        n = message.options.gas ∧ n ≠ 0 := by
    unfold Option.guard
    split_ifs with shown
    · simp only [Option.map_some, Option.some.injEq, Shown.quantity.injEq]
      constructor
      · rintro rfl
        exact ⟨rfl, bne_iff_ne.mp shown⟩
      · exact And.left
    · simp only [Option.map_none, reduceCtorEq, false_iff]
      rintro ⟨rfl, other⟩
      exact shown (bne_iff_ne.mpr other)
  have fee : ∀ fee : Option Int, some (Shown.quantity n) = fee.map .quantity ↔ fee = some n := by
    intro fee
    cases fee with
    | none => simp
    | some m => simp [eq_comm]
  have text : ∀ (α : Type) (given : Option α) (embed : α → String),
      ¬some (Shown.quantity n) = given.map fun a => .text (embed a) := by
    rintro α (_ | a) embed ⟨⟩
  have list : ∀ given : Option (List AccessEntry),
      ¬some (Shown.quantity n) = given.map .accessList := by
    rintro (_ | entries) ⟨⟩
  simp only [Counts, rows, List.mem_cons, List.not_mem_nil, Prod.mk.injEq, exists_or,
    exists_eq_left, gas, fee, text, list, Option.some.injEq, reduceCtorEq, Shown.quantity.injEq,
    false_or, or_false]

theorem rpcParam_write {key : String} {shown : Shown}
    (kind : shown.isQuantity = decide (key ∈ Record.quantityKeys))
    (nonneg : ∀ n, shown = .quantity n → 0 ≤ n) :
    Record.rpcParam (key, shown.write .int) = .ok (key, shown.write Shown.hexQuantity) := by
  cases shown with
  | quantity n =>
    have quantity := of_decide_eq_true kind.symm
    have bound := nonneg n rfl
    simp only [Record.rpcParam, if_pos quantity, Shown.write, Value.toQuantity_of_nonneg bound]
    rfl
  | text | accessList =>
    have other := of_decide_eq_false kind.symm
    simp only [Record.rpcParam, if_neg other]
    rfl

theorem rpcParam_negative {key : String} {n : Int} (quantity : key ∈ Record.quantityKeys)
    (negative : n < 0) : Record.rpcParam (key, .int n) =
      .error (.badValue (.negativeQuantity (.int n))) := by
  simp only [Record.rpcParam, if_pos quantity, Value.toQuantity_of_negative negative]
  rfl

theorem rpc_eq (message : CallMessage) :
    message.record.rpc = (message.rendered .int).mapM Record.rpcParam := by
  unfold Record.rpc
  rw [Record.call_eq_ok rfl, params_record]
  rfl

theorem rpc_record (nonneg : ∀ n, message.Counts n → 0 ≤ n) :
    message.record.rpc = .ok (message.rendered Shown.hexQuantity) := by
  have each : ∀ item ∈ present message.rows,
      Record.rpcParam (item.1, item.2.write .int) = .ok (item.1, item.2.write Shown.hexQuantity) := by
    rintro ⟨key, shown⟩ member
    have row := mem_present.mp member
    refine rpcParam_write (isQuantity_of_mem row) ?_
    rintro n rfl
    exact nonneg n ⟨key, row⟩
  rw [rpc_eq, rendered, List.mapM_map]
  exact Result.mapM_eq_ok_map each

/-- A negative quantity is refused, whatever else the message holds. -/
theorem rpc_negative {n : Int} (counts : message.Counts n) (negative : n < 0) :
    ∃ m, message.record.rpc = .error (.badValue (.negativeQuantity (.int m))) := by
  have refused : ∀ key m, (key, some (Shown.quantity m)) ∈ message.rows → m < 0 →
      Record.rpcParam (key, .int m) = .error (.badValue (.negativeQuantity (.int m))) := by
    intro key m row below
    exact rpcParam_negative (of_decide_eq_true (isQuantity_of_mem row).symm) below
  obtain ⟨key, row⟩ := counts
  rw [rpc_eq]
  cases run : (message.rendered .int).mapM Record.rpcParam with
  | ok results =>
    have shown : (key, Value.int n) ∈ message.rendered .int :=
      List.mem_map.mpr ⟨_, mem_present.mpr row, rfl⟩
    obtain ⟨_, _, accepted⟩ := Result.mapM_ok_of_mem run shown
    rw [refused key n row negative] at accepted
    contradiction
  | error fault =>
    obtain ⟨good, item, rest, split, _, failed⟩ := Result.mapM_eq_error run
    have member : item ∈ message.rendered .int :=
      split ▸ List.mem_append_right good List.mem_cons_self
    obtain ⟨⟨name, shown⟩, within, rfl⟩ := List.mem_map.mp member
    have row := mem_present.mp within
    by_cases below : ∃ m, shown = .quantity m ∧ m < 0
    · obtain ⟨m, rfl, below⟩ := below
      cases (refused name m row below).symm.trans failed
      exact ⟨m, rfl⟩
    · have accepted := rpcParam_write (isQuantity_of_mem row)
        fun m same => not_lt.mp fun less => below ⟨m, same, less⟩
      rw [accepted] at failed
      contradiction

end CallMessage

end LayerTwo
