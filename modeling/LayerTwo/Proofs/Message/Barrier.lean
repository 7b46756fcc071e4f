import LayerTwo.Proofs.Message.Outcome
import LayerTwo.Proofs.Payload.BlockRange
import LayerTwo.Proofs.Result

/-! No value gets past a check that it does not meet. Whatever a model is made from, all its fields
and the fields of the models inside it meet what is demanded of them. A copy with changes promises
nothing, but the call message that is built from it is checked like any other. -/
namespace LayerTwo

open Address Operation Schema

/-! What is demanded -/

/-- A model that the value is or holds, at any depth. -/
inductive Value.Holds : Value → Record → Prop where
  | self (kind : Kind) (fields : Entries) : Holds (.model kind fields) ⟨kind, fields, []⟩
  | field {kind : Kind} {fields : Entries} {name : String} {value : Value} {part : Record}
      (member : (name, value) ∈ fields) (within : Holds value part) :
      Holds (.model kind fields) part
  | entry {entries : Entries} {key : String} {value : Value} {part : Record}
      (member : (key, value) ∈ entries) (within : Holds value part) : Holds (.dict entries) part
  | listItem {items : List Value} {value : Value} {part : Record} (member : value ∈ items)
      (within : Holds value part) : Holds (.list items) part
  | tupleItem {items : List Value} {value : Value} {part : Record} (member : value ∈ items)
      (within : Holds value part) : Holds (.tuple items) part

/-- What a field has to hold. A contract is an address that does not stand for the native currency;
a count is an integer that is not negative. -/
inductive Demand where
  | address | addressIfSet | contract | count | countIfSet | token | accessList

namespace Demand

/-- The value is an address in the form to which every spelling of it is brought. -/
def IsAddress (value : Value) : Prop := ∃ form, value = .str form ∧ Address.read value = .ok form

def IsCount (value : Value) : Prop := ∃ n : Int, value = .int n ∧ 0 ≤ n

def Met : Demand → Value → Prop
  | .address, value => IsAddress value
  | .addressIfSet, value => value = .null ∨ IsAddress value
  | .contract, value => IsAddress value ∧ value ≠ .str Address.zero
  | .count, value => IsCount value
  | .countIfSet, value => value = .null ∨ IsCount value
  | .token, value => ∃ fields, value = .model .native fields ∨ value = .model .erc20 fields
  | .accessList, value => ∃ items, value = .tuple items ∧
      ∀ item ∈ items, ∃ fields, item = .model .accessEntry fields

/-- The demands on the options of a message. -/
def options : List (String × Demand) :=
  [("gas", .count), ("gas_price", .countIfSet), ("gas_fee_cap", .countIfSet),
    ("gas_tip_cap", .countIfSet), ("access_list", .accessList)]

end Demand

def Kind.demands : Kind → List (String × Demand)
  | .native | .block => []
  | .erc20 => [("address", .contract)]
  | .accessEntry => [("address", .address)]
  | .call => Demand.options ++
    [("from_address", .address), ("to", .addressIfSet), ("value", .count)]
  | .transfer => Demand.options ++
    [("to", .address), ("amount", .count), ("token", .token), ("from_address", .address)]
  | .withdrawal => Demand.options ++
    [("to", .address), ("amount", .count), ("token", .token), ("bridge_address", .addressIfSet),
      ("from_address", .address)]
  | .blockRange => [("beginning", .count), ("end", .count)]

/-- The fields of a model meet the demands on its kind, and its fees are not mixed. -/
structure Record.Upright (record : Record) : Prop where
  fields : ∀ field ∈ record.kind.demands, ∃ value,
    record.fields.lookup field.1 = some value ∧ field.2.Met value
  unmixed : record.get "gas_price" ≠ .null →
    record.get "gas_fee_cap" = .null ∧ record.get "gas_tip_cap" = .null

/-- Every model in the value is upright. -/
def Value.Sound (value : Value) : Prop := ∀ part, value.Holds part → part.Upright

/-- The record and all models inside it are upright. -/
def Record.Sound (record : Record) : Prop := record.toValue.Sound

/-! Soundness of values -/

namespace Value

variable {kind : Kind} {fields : Entries}

theorem sound_model_iff : (model kind fields).Sound ↔
    Record.Upright ⟨kind, fields, []⟩ ∧ ∀ field ∈ fields, field.2.Sound := by
  constructor
  · intro sound
    exact ⟨sound _ (.self kind fields), fun field member part within =>
      sound part (.field member within)⟩
  · rintro ⟨upright, inner⟩ part holds
    cases holds with
    | self => exact upright
    | field member within => exact inner _ member part within

theorem sound_tuple {items : List Value} (each : ∀ item ∈ items, item.Sound) :
    (tuple items).Sound := by
  intro part holds
  cases holds with
  | tupleItem member within => exact each _ member part within

theorem sound_null : null.Sound := by
  intro part holds
  cases holds

theorem sound_str (s : String) : (str s).Sound := by
  intro part holds
  cases holds

theorem sound_int (n : Int) : (int n).Sound := by
  intro part holds
  cases holds

theorem sound_bytes (octets : List UInt8) : (bytes octets).Sound := by
  intro part holds
  cases holds

theorem sound_ofOption {α : Type} {embed : α → Value} (each : ∀ a, (embed a).Sound)
    (given : Option α) : (ofOption embed given).Sound := by
  cases given with
  | none => exact sound_null
  | some a => exact each a

end Value

/-! Fields that passed a check -/

namespace Demand

theorem isAddress_of_isForm {form : String} (isForm : IsForm form) : IsAddress (.str form) :=
  ⟨form, rfl, address_eq_ok_iff.mp (address_of_isForm isForm)⟩

theorem isCount_of_nonneg {n : Int} (nonneg : 0 ≤ n) : IsCount (.int n) := ⟨n, rfl, nonneg⟩

theorem met_addressIfSet {given : Option String} (each : ∀ form, given = some form → IsForm form) :
    addressIfSet.Met (.ofOption .str given) := by
  cases given with
  | none => exact Or.inl rfl
  | some form => exact Or.inr (isAddress_of_isForm (each form rfl))

theorem met_countIfSet {fee : Option Int} (each : ∀ n, fee = some n → 0 ≤ n) :
    countIfSet.Met (.ofOption .int fee) := by
  cases fee with
  | none => exact Or.inl rfl
  | some n => exact Or.inr (isCount_of_nonneg (each n rfl))

theorem met_token (token : Token) : Demand.token.Met token.record.toValue := by
  cases token with
  | native => exact ⟨_, Or.inl rfl⟩
  | erc20 => exact ⟨_, Or.inr rfl⟩

theorem met_accessList (entries : List AccessEntry) :
    accessList.Met (.tuple (entries.map fun entry => entry.record.toValue)) := by
  refine ⟨_, rfl, ?_⟩
  intro item member
  obtain ⟨entry, _, rfl⟩ := List.mem_map.mp member
  exact ⟨_, rfl⟩

end Demand

theorem AccessEntry.sound {entry : AccessEntry} (isForm : IsForm entry.address) :
    entry.record.Sound := by
  refine Value.sound_model_iff.mpr ⟨⟨?_, fun priced => absurd rfl priced⟩, ?_⟩
  · simp only [Kind.demands, record, List.forall_mem_singleton]
    exact ⟨_, rfl, Demand.isAddress_of_isForm isForm⟩
  · simp only [record, List.forall_mem_cons]
    refine ⟨Value.sound_str _, Value.sound_tuple ?_, List.forall_mem_nil _⟩
    intro key member
    obtain ⟨text, _, rfl⟩ := List.mem_map.mp member
    exact Value.sound_str text

namespace GasOptions.Valid

variable {options : GasOptions}

theorem sound (valid : options.Valid) : ∀ field ∈ options.fields, field.2.Sound := by
  have entries : (Value.tuple (options.accessList.map fun entry => entry.record.toValue)).Sound := by
    refine Value.sound_tuple ?_
    intro item member
    obtain ⟨entry, within, rfl⟩ := List.mem_map.mp member
    exact AccessEntry.sound (valid.accessList entry within)
  have fee := Value.sound_ofOption Value.sound_int
  simp only [fields, List.forall_mem_cons]
  exact ⟨Value.sound_int _, fee _, fee _, fee _, entries, List.forall_mem_nil _⟩

/-- A record that starts with the options is upright if its other fields meet their demands. -/
theorem upright (valid : options.Valid) {kind : Kind} {others : Entries}
    {demands : List (String × Demand)} (demanded : kind.demands = Demand.options ++ demands)
    (met : ∀ field ∈ demands, ∃ value,
      (options.fields ++ others).lookup field.1 = some value ∧ field.2.Met value) :
    Record.Upright ⟨kind, options.fields ++ others, []⟩ where
  fields := by
    rw [demanded, List.forall_mem_append]
    refine ⟨?_, met⟩
    simp only [Demand.options, List.forall_mem_cons]
    exact ⟨⟨_, rfl, Demand.isCount_of_nonneg valid.gas⟩,
      ⟨_, rfl, Demand.met_countIfSet valid.gasPrice⟩, ⟨_, rfl, Demand.met_countIfSet valid.feeCap⟩,
      ⟨_, rfl, Demand.met_countIfSet valid.tipCap⟩, ⟨_, rfl, Demand.met_accessList _⟩,
      List.forall_mem_nil _⟩
  unmixed := by
    intro priced
    have unmixed := valid.unmixed
    have price : options.gasPrice ≠ none := by
      intro unset
      exact priced (congrArg (Value.ofOption .int) unset)
    simp only [mixesFees, Option.isSome_iff_ne_none.mpr price, Bool.true_and, Bool.or_eq_false_iff,
      Option.isSome_eq_false_iff, Option.isNone_iff_eq_none] at unmixed
    exact ⟨congrArg (Value.ofOption .int) unmixed.1, congrArg (Value.ofOption .int) unmixed.2⟩

end GasOptions.Valid

theorem Token.Valid.sound {token : Token} (valid : token.Valid) : token.record.Sound := by
  cases valid with
  | native =>
    refine Value.sound_model_iff.mpr ⟨⟨List.forall_mem_nil _, fun priced => absurd rfl priced⟩, ?_⟩
    simp only [record, List.forall_mem_singleton]
    exact Value.sound_str _
  | @erc20 contract other =>
    refine Value.sound_model_iff.mpr ⟨⟨?_, fun priced => absurd rfl priced⟩, ?_⟩
    · simp only [Kind.demands, record, List.forall_mem_singleton]
      refine ⟨_, rfl, Demand.isAddress_of_isForm ⟨contract, rfl⟩, ?_⟩
      intro same
      exact other (Value.str.inj same)
    · simp only [record, List.forall_mem_cons]
      exact ⟨Value.sound_str _, Value.sound_str _, List.forall_mem_nil _⟩

theorem BlockRange.sound {range : BlockRange} (first : 0 ≤ range.first) (last : 0 ≤ range.last) :
    range.record.Sound := by
  refine Value.sound_model_iff.mpr ⟨⟨?_, fun priced => absurd rfl priced⟩, ?_⟩
  · simp only [Kind.demands, record, List.forall_mem_cons]
    exact ⟨⟨_, rfl, Demand.isCount_of_nonneg first⟩, ⟨_, rfl, Demand.isCount_of_nonneg last⟩,
      List.forall_mem_nil _⟩
  · simp only [record, List.forall_mem_cons]
    exact ⟨Value.sound_int _, Value.sound_int _, List.forall_mem_nil _⟩

theorem CallMessage.Valid.sound {message : CallMessage} (valid : message.Valid) :
    message.record.Sound := by
  refine Value.sound_model_iff.mpr ⟨valid.options.upright rfl ?_, ?_⟩
  · simp only [List.forall_mem_cons]
    exact ⟨⟨_, rfl, Demand.isAddress_of_isForm valid.sender⟩,
      ⟨_, rfl, Demand.met_addressIfSet valid.recipient⟩,
      ⟨_, rfl, Demand.isCount_of_nonneg valid.value⟩, List.forall_mem_nil _⟩
  · simp only [record, List.forall_mem_append, List.forall_mem_cons]
    exact ⟨valid.options.sound, Value.sound_str _, Value.sound_ofOption Value.sound_str _,
      Value.sound_int _, Value.sound_bytes _, List.forall_mem_nil _⟩

theorem Transfer.Valid.sound {transfer : Transfer} (valid : transfer.Valid) :
    transfer.record.Sound := by
  refine Value.sound_model_iff.mpr ⟨valid.options.upright rfl ?_, ?_⟩
  · simp only [List.forall_mem_cons]
    exact ⟨⟨_, rfl, Demand.isAddress_of_isForm valid.recipient⟩,
      ⟨_, rfl, Demand.isCount_of_nonneg valid.amount⟩, ⟨_, rfl, Demand.met_token _⟩,
      ⟨_, rfl, Demand.isAddress_of_isForm valid.sender⟩, List.forall_mem_nil _⟩
  · simp only [record, List.forall_mem_append, List.forall_mem_cons]
    exact ⟨valid.options.sound, Value.sound_str _, Value.sound_int _, valid.token.sound,
      Value.sound_str _, List.forall_mem_nil _⟩

theorem Withdrawal.Valid.sound {withdrawal : Withdrawal} (valid : withdrawal.Valid) :
    withdrawal.record.Sound := by
  refine Value.sound_model_iff.mpr ⟨valid.options.upright rfl ?_, ?_⟩
  · simp only [List.forall_mem_cons]
    exact ⟨⟨_, rfl, Demand.isAddress_of_isForm valid.recipient⟩,
      ⟨_, rfl, Demand.isCount_of_nonneg valid.amount⟩, ⟨_, rfl, Demand.met_token _⟩,
      ⟨_, rfl, Demand.met_addressIfSet valid.bridge⟩,
      ⟨_, rfl, Demand.isAddress_of_isForm valid.sender⟩, List.forall_mem_nil _⟩
  · simp only [record, List.forall_mem_append, List.forall_mem_cons]
    exact ⟨valid.options.sound, Value.sound_str _, Value.sound_int _, valid.token.sound,
      Value.sound_ofOption Value.sound_str _, Value.sound_str _, List.forall_mem_nil _⟩

/-! Models that are made -/

/-- The kinds of model with demands on their fields. -/
def Kind.demanding : List Kind :=
  [.erc20, .accessEntry, .call, .transfer, .withdrawal, .blockRange]

theorem Record.Made.sound {kind : Kind} (demanding : kind ∈ Kind.demanding) {record : Record}
    (made : record.Made kind) : record.kind = kind ∧ record.Sound := by
  obtain ⟨inputs, made⟩ := made.inputs
  simp only [Kind.demanding, List.mem_cons, List.not_mem_nil, or_false] at demanding
  rcases demanding with rfl | rfl | rfl | rfl | rfl | rfl
  · obtain ⟨token, checked, rfl⟩ := result_map_eq_ok made
    obtain ⟨contract, other, rfl⟩ := Token.contract_of_checkErc20 checked
    exact ⟨rfl, (Token.Valid.erc20 other).sound⟩
  · obtain ⟨entry, checked, rfl⟩ := result_map_eq_ok made
    exact ⟨rfl, AccessEntry.sound (AccessEntry.isForm_of_checkFields checked)⟩
  · obtain ⟨message, checked, rfl⟩ := result_map_eq_ok made
    exact ⟨rfl, (CallMessage.valid_of_check checked).sound⟩
  · obtain ⟨transfer, checked, rfl⟩ := result_map_eq_ok made
    exact ⟨rfl, (Transfer.valid_of_check checked).sound⟩
  · obtain ⟨withdrawal, checked, rfl⟩ := result_map_eq_ok made
    exact ⟨rfl, (Withdrawal.valid_of_check checked).sound⟩
  · obtain ⟨range, checked, rfl⟩ := result_map_eq_ok made
    obtain ⟨first, last⟩ := BlockRange.nonneg_of_check checked
    exact ⟨rfl, BlockRange.sound first last⟩

/-! Messages that are built from anything -/

namespace Record

variable (record : Record)

theorem valid_of_makeCall {record : Record} {recipient value data : Value} {message : CallMessage}
    (made : record.makeCall recipient value data = .ok message) : message.Valid := by
  obtain ⟨_, _, checked⟩ := Result.bind_eq_ok_iff.mp made
  change (CallMessage.check (record.callFields recipient value data)).result .call = _ at checked
  exact CallMessage.valid_of_check (result_eq_ok_iff.mp checked)

/-- Both builders end in a message that is made, logged and handed over. -/
theorem yields_built (what : String) (recipient value data : Value) :
    Yields (ofExcept (record.makeCall recipient value data) >>= fun message => do
      logBuilt what message
      return message) CallMessage.Valid :=
  Yields.bind (yields_ofExcept fun _ => valid_of_makeCall) fun _ valid =>
    yields_bind fun _ => yields_pure valid

theorem yields_transferCall : Yields record.transferCall CallMessage.Valid := by
  refine yields_bind fun _ => yields_bind fun native => ?_
  cases native with
  | true => exact record.yields_built "transfer" _ _ _
  | false => exact yields_bind fun data => record.yields_built "transfer" _ _ _

theorem yields_withdrawalCall (default : Value) :
    Yields (record.withdrawalCall default) CallMessage.Valid := by
  refine yields_bind fun native => ?_
  cases native with
  | true => exact yields_bind fun _ => yields_bind fun data => record.yields_built "withdrawal" _ _ _
  | false =>
    exact yields_bind fun data => yields_bind fun bridge => record.yields_built "withdrawal" _ _ _

theorem yields_toCall (default : Value) : Yields (record.toCall default) CallMessage.Valid := by
  refine yields_bind fun _ => ?_
  split
  · exact record.yields_transferCall
  · exact record.yields_withdrawalCall default
  · exact yields_fail _

end Record

/-- A transfer or a withdrawal that was checked, or a copy of one with plain values that no check has
seen. -/
inductive Record.Reached : Record → Prop where
  | transfer {record : Record} (made : record.Made .transfer) : Reached record
  | withdrawal {record : Record} (made : record.Made .withdrawal) : Reached record
  | copied {record copy : Record} {changes : Entries} (original : Reached record)
      (plain : ∀ change ∈ changes, ∀ part, ¬change.2.Holds part)
      (copied : record.copy changes = .ok copy) : Reached copy

/-- Every model that is made is sound, whatever it is made from, and so is every call message that is
built, whatever the copies of its transfer or withdrawal hold. -/
theorem models_sound :
    (∀ kind ∈ Kind.demanding, ∀ record : Record, record.Made kind →
      record.kind = kind ∧ record.Sound) ∧
    ∀ record : Record, record.Reached → ∀ default loaded message,
      (record.toCall default loaded).result = .ok message → message.record.Sound := by
  constructor
  · intro kind demanding record made
    exact made.sound demanding
  · intro record _ default loaded message built
    -- the message was checked when it was made, so the copies before it do not matter
    exact (record.yields_toCall default loaded message built).sound

/-- The amount that a copy of a native transfer holds is checked as the value of the message. -/
theorem Transfer.answers_copied {transfer : Transfer} (valid : transfer.Valid)
    (native : transfer.token = .native) {amount : Value} {n : Int}
    (checked : natural amount = .ok n) (short : Decimal.Short n) (default : Value) :
    Answers ((transfer.record.update [("amount", amount)]).toCall default)
      (.ok ⟨transfer.options, transfer.sender, some transfer.recipient, n, []⟩) := by
  have carries : (transfer.record.update [("amount", amount)]).Carries transfer.options
      transfer.sender :=
    ⟨rfl, fun field member => congrArg (·.getD .null) (transfer.options.lookup_fields _ field member),
      rfl⟩
  have warned : Answers (transfer.record.update [("amount", amount)]).warnZeroAmount (.ok ()) :=
    answers_warnZeroAmount _
  obtain ⟨recipient, spelled⟩ := valid.recipient
  have made := Record.makeCall_of_checked carries valid.options valid.sender (read_form recipient)
    checked []
  obtain ⟨options, own, old, token, sender⟩ := transfer
  subst native spelled
  refine (answers_ofExcept _).bind (a := ()) ?_
  refine warned.bind ?_
  refine (answers_ofExcept (.ok true)).bind ?_
  have built := answers_built "transfer" made
  rwa [if_pos short] at built

/-- A truth value that a copy holds as its amount is one unit in the message. -/
theorem models_sound_copied : ∃ record copy message,
    Record.make .transfer [("from", .str (Account.uniform 1).form),
      ("to", .str (Account.uniform 2).form), ("amount", .int 0)] = .ok record ∧
    record.copy [("amount", .bool true)] = .ok copy ∧
    (copy.toCall .null []).result = .ok message ∧ message.value = 1 ∧ message.record.Sound := by
  let transfer : Transfer := ⟨⟨0, none, none, none, []⟩, (Account.uniform 2).form, 0, .native,
    (Account.uniform 1).form⟩
  have read : ∀ byte, Schema.address (.str (Account.uniform byte).form) =
      .ok (Account.uniform byte).form := fun byte => address_of_isForm ⟨_, rfl⟩
  have made : Record.make .transfer [("from", .str (Account.uniform 1).form),
      ("to", .str (Account.uniform 2).form), ("amount", .int 0)] = .ok transfer.record := by
    simp [Record.make, Transfer.check, required, Schema.optional, find?, List.lookup, senderName,
      Name.spellings, read]
    rfl
  let copy := transfer.record.update [("amount", .bool true)]
  have copied : transfer.record.copy [("amount", .bool true)] = .ok copy := rfl
  have plain : ∀ change ∈ [("amount", Value.bool true)], ∀ part, ¬change.2.Holds part := by
    simp only [List.forall_mem_singleton]
    intro part holds
    cases holds
  have reached : copy.Reached := .copied (.transfer (.ofInputs _ made)) plain copied
  have valid := Transfer.valid_of_made (.ofInputs _ made)
  have built := Transfer.answers_copied valid rfl (show natural (.bool true) = .ok 1 from rfl)
    (by decide) .null []
  exact ⟨_, copy, _, made, copied, built, rfl, models_sound.2 copy reached .null [] _ built⟩

end LayerTwo
