import LayerTwo.Proofs.Message.Rendering
import LayerTwo.Proofs.Payload.Scalar
import LayerTwo.Proofs.Value.Equality

/-! Rendering a call message loses nothing. The two renderings have the same keys and differ only in
the quantities, which read back from hex as long as they stay below 256 bits; leaving out what is
not set confuses no two messages, because only one value of a field is ever left out. -/
namespace LayerTwo

open Operation

/-- The text is read as the number, unless the number has more than 256 bits. -/
def ReadsAs (text : Value) (n : Nat) : Prop :=
  ∀ (σ : Type) (state : σ) (field : Option String),
    (n < 2 ^ 256 → (Payload.quantity field text state).result = .ok n) ∧
    (2 ^ 256 ≤ n → ∃ error, (Payload.quantity field text state).result = .error (.parse error))

/-- The parameters of a message, as they are and with quantities in hex. -/
structure CallMessage.Renders (message : CallMessage) (params rpc : Entries) : Prop where
  keys : rpc.map (·.1) = params.map (·.1)
  plain : ∀ key, key ∉ Record.quantityKeys → rpc.lookup key = params.lookup key
  quantity : ∀ key ∈ Record.quantityKeys, ∀ value, params.lookup key = some value →
    ∃ (n : Nat) (text : Value), value = .int n ∧ rpc.lookup key = some text ∧ ReadsAs text n
  noData : params.lookup "data" = none ↔ message.data = []
  data : ∀ text, params.lookup "data" = some text → ∀ (σ : Type) (state : σ) field,
    (Payload.data field none text state).result = .ok message.data
  unmixed : params.lookup "gasPrice" ≠ none →
    params.lookup "maxFeePerGas" = none ∧ params.lookup "maxPriorityFeePerGas" = none

/-- A quantity of at most 256 bits reads back from its hex text, a larger one is refused. -/
theorem readsAs_writeQuantity (n : Nat) : ReadsAs (.str (Hex.writeQuantity n)) n := by
  intro σ state field
  rw [Payload.result_quantity, Hex.readQuantity_writeQuantity]
  constructor
  · intro small
    rw [if_pos small]
    rfl
  · intro large
    rw [if_neg (not_lt.mpr large)]
    exact ⟨⟨.hex (.oversized (.str (Hex.writeQuantity n))), field⟩, rfl⟩

/-- An entry of the access list keeps its address and its keys. -/
theorem AccessEntry.eq_of_same_param (a b : AccessEntry)
    (alike : Value.same a.param b.param = true) : a = b := by
  have distinct : ([("address", Value.str a.address),
      ("storageKeys", .list (a.storageKeys.map .str))].map (·.1)).Nodup := by simp
  have entries := Value.alike_lookup_of_same distinct alike
  have address := Value.eq_of_same_str (entries "address").same
  have keys := Value.eq_of_same_list (fun _ _ => Value.eq_of_same_str) (entries "storageKeys").same
  cases a
  cases b
  cases address
  cases keys
  rfl

namespace CallMessage

variable {message : CallMessage}

theorem Valid.counts (valid : message.Valid) : ∀ n, message.Counts n → 0 ≤ n := by
  intro n counts
  rcases counts_iff.mp counts with rfl | ⟨rfl, _⟩ | fee | fee | fee
  · exact valid.value
  · exact valid.options.gas
  · exact valid.options.gasPrice n fee
  · exact valid.options.feeCap n fee
  · exact valid.options.tipCap n fee

/-- What stands at a key of a rendering is what the row of the key shows. -/
theorem shown_of_lookup {quantity : Int → Value} {key : String} {value : Value}
    (found : (message.rendered quantity).lookup key = some value) :
    ∃ shown, (key, some shown) ∈ message.rows ∧ value = shown.write quantity := by
  rw [lookup_rendered, Option.map_eq_some_iff] at found
  obtain ⟨shown, row, rfl⟩ := found
  rw [Option.join_eq_some_iff] at row
  exact ⟨shown, Value.mem_of_lookup_eq_some row, rfl⟩

theorem lookup_held {key : String} {row : Option Shown}
    (held : message.rows.lookup key = some row) (quantity : Int → Value) :
    (message.rendered quantity).lookup key = row.map (Shown.write quantity) := by
  rw [lookup_rendered, held]
  rfl

theorem lookup_data (message : CallMessage) : (message.rendered .int).lookup "data" =
    (Option.guard (!·.isEmpty) message.data).map fun octets => .str (Hex.writeData octets) := by
  have shown : message.rows.lookup "data" = some ((Option.guard (!·.isEmpty) message.data).map
      fun octets => .text (Hex.writeData octets)) := rfl
  rw [lookup_held shown, Option.map_map]
  rfl

theorem renders (valid : message.Valid) :
    message.Renders (message.rendered .int) (message.rendered Shown.hexQuantity) where
  keys := by rw [keys_rendered, keys_rendered]
  plain key other := by
    rw [lookup_rendered, lookup_rendered]
    cases row : (message.rows.lookup key).join with
    | none => rfl
    | some shown =>
      rw [Option.join_eq_some_iff] at row
      have kind := isQuantity_of_mem (Value.mem_of_lookup_eq_some row)
      rw [decide_eq_false other] at kind
      cases shown with
      | quantity => contradiction
      | text | accessList => rfl
  quantity key member value found := by
    obtain ⟨shown, row, rfl⟩ := shown_of_lookup found
    have kind := isQuantity_of_mem row
    rw [decide_eq_true member] at kind
    cases shown with
    | quantity n =>
      obtain ⟨n, rfl⟩ := Int.eq_ofNat_of_zero_le (valid.counts n ⟨key, row⟩)
      have held := Value.lookup_eq_some_of_mem message.distinct_rows row
      exact ⟨n, _, rfl, lookup_held held Shown.hexQuantity, readsAs_writeQuantity n⟩
    | text | accessList => contradiction
  noData := by
    rw [lookup_data, Option.map_eq_none_iff, Option.guard_eq_none_iff]
    simp
  data text found := by
    rw [lookup_data, Option.map_eq_some_iff] at found
    obtain ⟨octets, shown, rfl⟩ := found
    obtain ⟨rfl, _⟩ := Option.guard_eq_some_iff.mp shown
    intro σ state field
    simp only [Payload.data, Hex.readData_writeData]
    rfl
  unmixed given := by
    have price : message.rows.lookup "gasPrice" = some (message.options.gasPrice.map .quantity) :=
      rfl
    have cap : message.rows.lookup "maxFeePerGas" = some (message.options.feeCap.map .quantity) :=
      rfl
    have tip : message.rows.lookup "maxPriorityFeePerGas" =
      some (message.options.tipCap.map .quantity) := rfl
    have unmixed := valid.options.unmixed
    rw [lookup_held price, ne_eq, Option.map_eq_none_iff, Option.map_eq_none_iff] at given
    rw [lookup_held cap, lookup_held tip]
    simp only [Option.map_eq_none_iff]
    rw [GasOptions.mixesFees, Option.isSome_iff_ne_none.mpr given, Bool.true_and,
      Bool.or_eq_false_iff] at unmixed
    exact ⟨Option.isSome_eq_false_iff.mp unmixed.1 |> Option.isNone_iff_eq_none.mp,
      Option.isSome_eq_false_iff.mp unmixed.2 |> Option.isNone_iff_eq_none.mp⟩

/-! Nothing is lost -/

/-- Things shown under one key count as equal, when written out, only if they are equal. -/
theorem shown_eq_of_same {quantity : Int → Value}
    (apart : ∀ m n : Int, 0 ≤ m → 0 ≤ n → Value.same (quantity m) (quantity n) = true → m = n)
    {x y : Shown} (kinds : x.isQuantity = y.isQuantity) (left : ∀ n, x = .quantity n → 0 ≤ n)
    (right : ∀ n, y = .quantity n → 0 ≤ n)
    (alike : Value.same (x.write quantity) (y.write quantity) = true) : x = y := by
  cases x with
  | quantity m =>
    cases y with
    | quantity n => rw [apart m n (left m rfl) (right n rfl) alike]
    | text | accessList => contradiction
  | text s =>
    cases y with
    | quantity => contradiction
    | text t => rw [Value.eq_of_same_str alike]
    | accessList => simp [Shown.write, Value.same, Value.sameAtom, Value.whole?] at alike
  | accessList entries =>
    cases y with
    | quantity => contradiction
    | text => simp [Shown.write, Value.same, Value.sameAtom, Value.whole?] at alike
    | accessList others =>
      rw [Value.eq_of_same_list AccessEntry.eq_of_same_param alike]

theorem guard_injective {α : Type} {given : α → Bool} (default : α)
    (only : ∀ a, given a = false → a = default) {a b : α}
    (same : Option.guard given a = Option.guard given b) : a = b := by
  unfold Option.guard at same
  split_ifs at same with left right right
  · exact Option.some.inj same
  · rw [only a (by simpa using left), only b (by simpa using right)]

/-- The rows of a message determine it. -/
theorem eq_of_rows {a b : CallMessage}
    (rows : ∀ key, (a.rows.lookup key).join = (b.rows.lookup key).join) : a = b := by
  have quantities : (Option.map Shown.quantity).Injective :=
    Option.map_injective fun _ _ => Shown.quantity.inj
  have texts : (Option.map Shown.text).Injective := Option.map_injective fun _ _ => Shown.text.inj
  have lists : (Option.map Shown.accessList).Injective :=
    Option.map_injective fun _ _ => Shown.accessList.inj
  have datas : (Option.map fun octets => Shown.text (Hex.writeData octets)).Injective :=
    Option.map_injective fun _ _ same => Hex.writeData_injective (Shown.text.inj same)
  have sender : a.sender = b.sender := Shown.text.inj (Option.some.inj (rows "from"))
  have value : a.value = b.value := Shown.quantity.inj (Option.some.inj (rows "value"))
  have recipient : a.recipient = b.recipient := texts (rows "to")
  have data : a.data = b.data := guard_injective [] (by simp) (datas (rows "data"))
  have gas : a.options.gas = b.options.gas := guard_injective 0 (by simp) (quantities (rows "gas"))
  have price : a.options.gasPrice = b.options.gasPrice := quantities (rows "gasPrice")
  have cap : a.options.feeCap = b.options.feeCap := quantities (rows "maxFeePerGas")
  have tip : a.options.tipCap = b.options.tipCap := quantities (rows "maxPriorityFeePerGas")
  have list : a.options.accessList = b.options.accessList :=
    guard_injective [] (by simp) (lists (rows "accessList"))
  obtain ⟨⟨_, _, _, _, _⟩, _, _, _, _⟩ := a
  obtain ⟨⟨_, _, _, _, _⟩, _, _, _, _⟩ := b
  cases sender
  cases value
  cases recipient
  cases data
  cases gas
  cases price
  cases cap
  cases tip
  cases list
  rfl

/-- Valid messages whose renderings count as equal are equal, whichever way quantities are written,
as long as different quantities are written differently. -/
theorem eq_of_same_rendered {quantity : Int → Value}
    (apart : ∀ m n : Int, 0 ≤ m → 0 ≤ n → Value.same (quantity m) (quantity n) = true → m = n)
    {a b : CallMessage} (left : a.Valid) (right : b.Valid)
    (alike : Value.same (.dict (a.rendered quantity)) (.dict (b.rendered quantity)) = true) :
    a = b := by
  refine eq_of_rows fun key => ?_
  have shown := Value.alike_lookup_of_same (a.distinct_rendered quantity) alike key
  rw [lookup_rendered, lookup_rendered] at shown
  cases first : (a.rows.lookup key).join with
  | none =>
    cases second : (b.rows.lookup key).join with
    | none => rfl
    | some y =>
      rw [first, second] at shown
      cases shown
  | some x =>
    cases second : (b.rows.lookup key).join with
    | none =>
      rw [first, second] at shown
      cases shown
    | some y =>
      rw [first, second] at shown
      rw [Option.join_eq_some_iff] at first second
      have here := Value.mem_of_lookup_eq_some first
      have there := Value.mem_of_lookup_eq_some second
      have kinds := (isQuantity_of_mem here).trans (isQuantity_of_mem there).symm
      have same := shown_eq_of_same apart kinds
        (fun n quantity => left.counts n ⟨key, quantity ▸ here⟩)
        (fun n quantity => right.counts n ⟨key, quantity ▸ there⟩) shown.same
      rw [same]

theorem eq_of_same_hexQuantity {m n : Int} (left : 0 ≤ m) (right : 0 ≤ n)
    (alike : Value.same (Shown.hexQuantity m) (Shown.hexQuantity n) = true) : m = n := by
  have numbers := Hex.writeQuantity_injective (Value.eq_of_same_str alike)
  omega

end CallMessage

/-! Copies with other integers -/

/-- The change gives a field of integers another integer; a fee may also be unset. -/
def Recounts (change : String × Value) : Prop :=
  (change.1 ∈ ["gas", "value"] ∧ ∃ n : Int, change.2 = .int n) ∨
  (change.1 ∈ ["gas_price", "gas_fee_cap", "gas_tip_cap"] ∧
    ∃ fee : Option Int, change.2 = .ofOption .int fee)

/-- The fields of a call message that hold integers. -/
def numberNames : List String := ["gas", "value", "gas_price", "gas_fee_cap", "gas_tip_cap"]

theorem Recounts.named {change : String × Value} (recounts : Recounts change) :
    change.1 ∈ numberNames := by
  rcases recounts with ⟨field, _⟩ | ⟨field, _⟩
  · exact List.mem_append_left ["gas_price", "gas_fee_cap", "gas_tip_cap"] field
  · exact List.mem_append_right ["gas", "value"] field

/-- A checked call message, or a copy of such a record with integers that no check has seen. -/
inductive Record.Recounted : Record → Prop where
  | made {record : Record} (made : record.Made .call) : Recounted record
  | copied {record copy : Record} {changes : Entries} (original : Recounted record)
      (recounts : ∀ change ∈ changes, Recounts change) (copied : record.copy changes = .ok copy) :
      Recounted copy

theorem Record.copy_eq_update {record : Record} (bare : record.extras = []) (changes : Entries) :
    record.copy changes = .ok (record.update changes) := by
  have configured : record.configure = .ok () := by
    simp only [configure, hidden?, bare]
    rfl
  simp only [copy, call_eq_ok bare, configured]
  cases changes with
  | nil => rfl
  | cons => rfl

section Changes

variable {changes : Entries} (recounts : ∀ change ∈ changes, Recounts change)
include recounts

theorem changed_number {name : String} (field : name ∈ ["gas", "value"]) (old : Int) :
    ∃ n : Int, (changes.lookup name).getD (.int old) = .int n := by
  cases found : changes.lookup name with
  | none => exact ⟨old, rfl⟩
  | some value =>
    rcases recounts _ (Value.mem_of_lookup_eq_some found) with ⟨_, number⟩ | ⟨fee, _⟩
    · exact number
    · simp only [List.mem_cons, List.not_mem_nil, or_false] at field fee
      rcases field with rfl | rfl <;> simp at fee

theorem changed_fee {name : String} (field : name ∈ ["gas_price", "gas_fee_cap", "gas_tip_cap"])
    (old : Option Int) :
    ∃ fee : Option Int, (changes.lookup name).getD (.ofOption .int old) = .ofOption .int fee := by
  cases found : changes.lookup name with
  | none => exact ⟨old, rfl⟩
  | some value =>
    rcases recounts _ (Value.mem_of_lookup_eq_some found) with ⟨number, _⟩ | ⟨_, fee⟩
    · simp only [List.mem_cons, List.not_mem_nil, or_false] at field number
      rcases field with rfl | rfl | rfl <;> simp at number
    · exact fee

theorem unchanged {name : String} (other : name ∉ numberNames) (old : Value) :
    (changes.lookup name).getD old = old := by
  cases found : changes.lookup name with
  | none => rfl
  | some value => exact absurd (recounts _ (Value.mem_of_lookup_eq_some found)).named other

end Changes

/-- A copy with other integers is again the record of a message, though not of a valid one. -/
theorem CallMessage.update_record (message : CallMessage) {changes : Entries}
    (recounts : ∀ change ∈ changes, Recounts change) :
    ∃ changed : CallMessage, message.record.update changes = changed.record := by
  obtain ⟨⟨gas, gasPrice, feeCap, tipCap, accessList⟩, sender, recipient, value, data⟩ := message
  obtain ⟨newGas, gasKept⟩ : ∃ n : Int, (changes.lookup "gas").getD (.int gas) = .int n :=
    changed_number recounts (by simp) gas
  obtain ⟨newValue, valueKept⟩ : ∃ n : Int, (changes.lookup "value").getD (.int value) = .int n :=
    changed_number recounts (by simp) value
  obtain ⟨price, priceKept⟩ : ∃ fee : Option Int,
      (changes.lookup "gas_price").getD (.ofOption .int gasPrice) = .ofOption .int fee :=
    changed_fee recounts (by simp) gasPrice
  obtain ⟨cap, capKept⟩ : ∃ fee : Option Int,
      (changes.lookup "gas_fee_cap").getD (.ofOption .int feeCap) = .ofOption .int fee :=
    changed_fee recounts (by simp) feeCap
  obtain ⟨tip, tipKept⟩ : ∃ fee : Option Int,
      (changes.lookup "gas_tip_cap").getD (.ofOption .int tipCap) = .ofOption .int fee :=
    changed_fee recounts (by simp) tipCap
  let before : CallMessage :=
    ⟨⟨gas, gasPrice, feeCap, tipCap, accessList⟩, sender, recipient, value, data⟩
  let after : CallMessage := ⟨⟨newGas, price, cap, tip, accessList⟩, sender, recipient, newValue, data⟩
  have fields : (before.record.fields.map fun field =>
      (field.1, (changes.lookup field.1).getD field.2)) = after.record.fields := by
    simp only [before, after, CallMessage.record, GasOptions.fields, List.cons_append,
      List.nil_append, List.map_cons, List.map_nil, gasKept, valueKept, priceKept, capKept, tipKept]
    rw [unchanged recounts (by decide), unchanged recounts (by decide),
      unchanged recounts (by decide), unchanged recounts (by decide)]
  have held : ∀ name ∈ numberNames, (before.record.fields.lookup name).isNone = false := by
    simp only [numberNames, List.forall_mem_cons]
    exact ⟨rfl, rfl, rfl, rfl, rfl, List.forall_mem_nil _⟩
  have extras : changes.filter (fun change => (before.record.fields.lookup change.1).isNone) =
      [] := by
    rw [List.filter_eq_nil_iff]
    intro change member
    rw [held change.1 (recounts change member).named]
    exact Bool.false_ne_true
  have parts : before.record.update changes =
      ⟨.call, before.record.fields.map fun field => (field.1, (changes.lookup field.1).getD field.2),
        Entries.insertAll [] (changes.filter fun change =>
          (before.record.fields.lookup change.1).isNone)⟩ := rfl
  refine ⟨after, ?_⟩
  rw [parts, fields, extras]
  rfl

theorem Record.Recounted.message {record : Record} (recounted : record.Recounted) :
    ∃ message : CallMessage, record = message.record := by
  induction recounted with
  | made made =>
    obtain ⟨message, _, same⟩ := made.call
    exact ⟨message, same⟩
  | copied _ recounts copied ih =>
    obtain ⟨message, rfl⟩ := ih
    rw [copy_eq_update rfl] at copied
    obtain ⟨changed, same⟩ := message.update_record recounts
    exact ⟨changed, (Except.ok.inj copied).symm.trans same⟩

/-- A field holds a negative number exactly when a negative number is shown. -/
theorem CallMessage.negative_field_iff (message : CallMessage) :
    (∃ name ∈ numberNames, ∃ n < 0, message.record.get name = .int n) ↔
      ∃ n < 0, message.Counts n := by
  have gas : message.record.get "gas" = .int message.options.gas := rfl
  have value : message.record.get "value" = .int message.value := rfl
  have price : message.record.get "gas_price" = .ofOption .int message.options.gasPrice := rfl
  have cap : message.record.get "gas_fee_cap" = .ofOption .int message.options.feeCap := rfl
  have tip : message.record.get "gas_tip_cap" = .ofOption .int message.options.tipCap := rfl
  have fee : ∀ (fee : Option Int) n, Value.ofOption Value.int fee = .int n ↔ fee = some n := by
    rintro (_ | m) n <;> simp [Value.ofOption]
  constructor
  · rintro ⟨name, field, n, negative, held⟩
    refine ⟨n, negative, counts_iff.mpr ?_⟩
    simp only [numberNames, List.mem_cons, List.not_mem_nil, or_false] at field
    rcases field with rfl | rfl | rfl | rfl | rfl
    · rw [gas, Value.int.injEq] at held
      exact Or.inr (Or.inl ⟨held.symm, by omega⟩)
    · rw [value, Value.int.injEq] at held
      exact Or.inl held.symm
    · exact Or.inr (Or.inr (Or.inl ((fee _ n).mp (price ▸ held))))
    · exact Or.inr (Or.inr (Or.inr (Or.inl ((fee _ n).mp (cap ▸ held)))))
    · exact Or.inr (Or.inr (Or.inr (Or.inr ((fee _ n).mp (tip ▸ held)))))
  · rintro ⟨n, negative, counts⟩
    rcases counts_iff.mp counts with rfl | ⟨rfl, _⟩ | set | set | set
    · exact ⟨"value", by decide, _, negative, value⟩
    · exact ⟨"gas", by decide, _, negative, gas⟩
    · exact ⟨"gas_price", by decide, n, negative, price.trans ((fee _ n).mpr set)⟩
    · exact ⟨"gas_fee_cap", by decide, n, negative, cap.trans ((fee _ n).mpr set)⟩
    · exact ⟨"gas_tip_cap", by decide, n, negative, tip.trans ((fee _ n).mpr set)⟩

/-- Every checked call message has both renderings, and they agree. Renderings that count as equal,
as parameters or with quantities in hex, come from equal messages. A message whose integers were
changed without a check has no hex rendering exactly when one of them is negative, and that is all
that can fail. -/
theorem renderings_faithful :
    (∀ record : Record, record.Made .call → ∃ (message : CallMessage) (params rpc : Entries),
      record = message.record ∧ record.params = .ok params ∧ record.rpc = .ok rpc ∧
        message.Renders params rpc) ∧
    (∀ a b : Record, a.Made .call → b.Made .call → ∀ p q : Entries,
      (a.params = .ok p ∧ b.params = .ok q) ∨ (a.rpc = .ok p ∧ b.rpc = .ok q) →
        Value.same (.dict p) (.dict q) = true → a = b) ∧
    ∀ record : Record, record.Recounted →
      ((∃ cause, record.rpc = .error (.badValue cause)) ↔
        ∃ name ∈ numberNames, ∃ n < 0, record.get name = .int n) ∧
      ∀ failure, record.rpc = .error failure →
        ∃ n, failure = .badValue (.negativeQuantity n) := by
  refine ⟨?_, ?_, ?_⟩
  · intro record made
    obtain ⟨message, valid, rfl⟩ := made.call
    exact ⟨message, _, _, rfl, message.params_record, CallMessage.rpc_record valid.counts,
      CallMessage.renders valid⟩
  · intro a b madeA madeB p q rendered alike
    obtain ⟨left, leftValid, rfl⟩ := madeA.call
    obtain ⟨right, rightValid, rfl⟩ := madeB.call
    rcases rendered with ⟨first, second⟩ | ⟨first, second⟩
    · rw [CallMessage.params_record, Except.ok.injEq] at first second
      subst first second
      rw [CallMessage.eq_of_same_rendered (fun _ _ _ _ => Value.eq_of_same_int) leftValid
        rightValid alike]
    · rw [CallMessage.rpc_record leftValid.counts, Except.ok.injEq] at first
      rw [CallMessage.rpc_record rightValid.counts, Except.ok.injEq] at second
      subst first second
      rw [CallMessage.eq_of_same_rendered (fun _ _ => CallMessage.eq_of_same_hexQuantity) leftValid
        rightValid alike]
  · intro record recounted
    obtain ⟨message, rfl⟩ := recounted.message
    rw [message.negative_field_iff]
    by_cases below : ∃ n < 0, message.Counts n
    · obtain ⟨n, negative, counts⟩ := below
      obtain ⟨m, refused⟩ := CallMessage.rpc_negative counts negative
      refine ⟨⟨fun _ => ⟨n, negative, counts⟩, fun _ => ⟨_, refused⟩⟩, ?_⟩
      intro failure failed
      rw [refused] at failed
      cases failed
      exact ⟨_, rfl⟩
    · have rendered := CallMessage.rpc_record fun n counts =>
        not_lt.mp fun negative => below ⟨n, negative, counts⟩
      refine ⟨⟨?_, fun negative => absurd negative below⟩, ?_⟩
      · rintro ⟨cause, failed⟩
        rw [rendered] at failed
        contradiction
      · intro failure failed
        rw [rendered] at failed
        contradiction

/-- A gas price of 257 bits is checked and rendered, and its hex text is refused. -/
theorem renderings_faithful_large : ∃ record params rpc text error,
    Record.make .call [("from", .str (Address.Account.uniform 1).form),
      ("gas_price", .int (2 ^ 256))] = .ok record ∧
    record.params = .ok params ∧ record.rpc = .ok rpc ∧ rpc.lookup "gasPrice" = some text ∧
    (Payload.quantity (some "gasPrice") text ()).result = .error (.parse error) := by
  let message : CallMessage := ⟨⟨0, some (2 ^ 256), none, none, []⟩,
    (Address.Account.uniform 1).form, none, 0, []⟩
  have read : Schema.address (.str (Address.Account.uniform 1).form) =
    .ok (Address.Account.uniform 1).form := address_of_isForm ⟨_, rfl⟩
  have made : Record.make .call [("from", .str (Address.Account.uniform 1).form),
      ("gas_price", .int (2 ^ 256))] = .ok message.record := by
    simp [Record.make, CallMessage.check, Schema.required, Schema.optional, Schema.find?,
      List.lookup, senderName, Schema.Name.spellings, read]
    rfl
  obtain ⟨_, params, rpc, _, first, second, renders⟩ :=
    renderings_faithful.1 message.record (.ofInputs _ made)
  have price : params.lookup "gasPrice" = some (.int (2 ^ 256)) := by
    rw [CallMessage.params_record, Except.ok.injEq] at first
    have held : message.rows.lookup "gasPrice" = some (some (.quantity (2 ^ 256))) := rfl
    rw [← first, CallMessage.lookup_held held]
    rfl
  obtain ⟨n, text, same, shown, reads⟩ := renders.quantity "gasPrice" (by decide) _ price
  have large : 2 ^ 256 ≤ n := by
    rw [Value.int.injEq] at same
    exact_mod_cast same.le
  obtain ⟨error, refused⟩ := (reads Unit () (some "gasPrice")).2 large
  exact ⟨_, params, rpc, text, error, made, first, second, shown, refused⟩

end LayerTwo
