import LayerTwo.Message.Build
import LayerTwo.Proofs.Message.Validity

/-! The check of what was checked before. The fields of a valid message make it again. A built call
message takes over the sender and the options of a valid one, so all that its check can refuse is a
recipient that is no address. -/
namespace LayerTwo

open Schema Address

theorem AccessEntry.check_of_isForm {entry : AccessEntry} (isForm : IsForm entry.address) :
    AccessEntry.check entry.record.toValue = .ok entry := by
  have keys : sequence text (.tuple (entry.storageKeys.map .str)) = .ok entry.storageKeys := by
    refine Checked.items_eq_ok_iff.mpr ?_
    rw [List.forall₂_map_left_iff, List.forall₂_same]
    exact fun _ _ => rfl
  refine Checked.andThen_eq_ok_iff.mpr ⟨_, rfl, ?_⟩
  rw [AccessEntry.checkFields, required_of_find? (find?_of_lookup _ rfl []) (address_of_isForm isForm),
    optional_of_find? rfl keys]
  rfl

theorem GasOptions.lookup_fields (options : GasOptions) (others : Entries) :
    ∀ field ∈ options.fields, (options.fields ++ others).lookup field.1 = some field.2 := by
  simp only [GasOptions.fields, List.forall_mem_cons]
  exact ⟨rfl, rfl, rfl, rfl, rfl, List.forall_mem_nil _⟩

/-- Valid options that stand under their names are what a check of them finds. -/
theorem GasOptions.check_of_valid {options : GasOptions} (valid : options.Valid) {inputs : Entries}
    (given : ∀ field ∈ options.fields, inputs.lookup field.1 = some field.2) :
    GasOptions.check inputs = .ok options := by
  have list : sequence AccessEntry.check
      (.tuple (options.accessList.map fun entry => entry.record.toValue)) =
        .ok options.accessList := by
    refine Checked.items_eq_ok_iff.mpr ?_
    rw [List.forall₂_map_left_iff, List.forall₂_same]
    exact fun entry member => AccessEntry.check_of_isForm (valid.accessList entry member)
  simp only [GasOptions.fields, List.forall_mem_cons] at given
  obtain ⟨gas, gasPrice, feeCap, tipCap, accessList, _⟩ := given
  rw [GasOptions.check, optional_of_find? (find?_of_lookup _ gas []) (natural_int valid.gas),
    optional_of_find? (find?_of_lookup _ gasPrice []) (nullable_natural valid.gasPrice),
    optional_of_find? (find?_of_lookup _ feeCap []) (nullable_natural valid.feeCap),
    optional_of_find? (find?_of_lookup _ tipCap []) (nullable_natural valid.tipCap),
    optional_of_find? (find?_of_lookup _ accessList []) list]
  rfl

theorem Token.contractAddress_of_read {value : Value} {form : String}
    (accepted : read value = .ok form) (other : form ≠ zero) :
    contractAddress value = .ok form := by
  rw [contractAddress, address_eq_ok_iff.mpr accepted, Checked.andThen, if_neg other]

theorem Token.check_of_valid {token : Token} (valid : token.Valid) :
    Token.check token.record.toValue = .ok token := by
  cases valid with
  | native => rfl
  | @erc20 contract other =>
    have kept := contractAddress_of_read (read_form contract) other
    change (checkErc20 [("kind", .str "erc20"), ("address", .str contract.form)]).under _ = _
    rw [Checked.under_eq_ok_iff, checkErc20, required_of_find? (find?_of_lookup _ rfl []) kept]
    rfl

theorem Token.check_form {contract : Account} (other : contract.form ≠ zero) :
    Token.check (.str contract.form) = .ok (.erc20 contract.form) := by
  simp only [Token.check, Token.resolve, read_form, Except.map, Token.ofAddress, if_neg other]

theorem Transfer.check_of_valid {transfer : Transfer} (valid : transfer.Valid) :
    Transfer.check transfer.record.fields = .ok transfer := by
  have sender : find? transfer.record.fields senderName.spellings =
      some ("from_address", .str transfer.sender) := rfl
  have options : GasOptions.check transfer.record.fields = .ok transfer.options :=
    GasOptions.check_of_valid valid.options (transfer.options.lookup_fields _)
  refine GasOptions.checkFees_eq_ok_iff.mpr ⟨?_, valid.options.unmixed⟩
  rw [options,
    required_of_find? (find?_of_lookup _ rfl []) (address_of_isForm valid.recipient),
    required_of_find? (find?_of_lookup _ rfl []) (natural_int valid.amount),
    optional_of_find? (find?_of_lookup _ rfl []) (Token.check_of_valid valid.token),
    required_of_find? sender (address_of_isForm valid.sender)]
  rfl

theorem Withdrawal.check_of_valid {withdrawal : Withdrawal} (valid : withdrawal.Valid) :
    Withdrawal.check withdrawal.record.fields = .ok withdrawal := by
  have sender : find? withdrawal.record.fields senderName.spellings =
      some ("from_address", .str withdrawal.sender) := rfl
  have bridge : nullable Schema.address (.ofOption .str withdrawal.bridge) =
      .ok withdrawal.bridge :=
    nullable_ofOption fun form given => ⟨by simp, address_of_isForm (valid.bridge form given)⟩
  have options : GasOptions.check withdrawal.record.fields = .ok withdrawal.options :=
    GasOptions.check_of_valid valid.options (withdrawal.options.lookup_fields _)
  refine GasOptions.checkFees_eq_ok_iff.mpr ⟨?_, valid.options.unmixed⟩
  rw [options,
    required_of_find? (find?_of_lookup _ rfl []) (address_of_isForm valid.recipient),
    required_of_find? (find?_of_lookup _ rfl []) (natural_int valid.amount),
    optional_of_find? (find?_of_lookup _ rfl []) (Token.check_of_valid valid.token),
    optional_of_find? (find?_of_lookup _ rfl []) bridge,
    required_of_find? sender (address_of_isForm valid.sender)]
  rfl

namespace Record

/-- The record holds the options and the sender of a message, and no extras. -/
structure Carries (record : Record) (options : GasOptions) (sender : String) : Prop where
  bare : record.extras = []
  options : ∀ field ∈ options.fields, record.get field.1 = field.2
  sender : record.get "from_address" = .str sender

variable {record : Record} {options : GasOptions} {sender : String}

/-- The inputs of the call message that is made from a record. -/
def callFields (record : Record) (recipient value data : Value) : Entries :=
  [("to", recipient), ("value", value), ("data", data)] ++ record.callInputs

theorem makeCall_eq (carries : record.Carries options sender) (recipient value data : Value) :
    record.makeCall recipient value data =
      (CallMessage.check (record.callFields recipient value data)).result .call := by
  simp only [makeCall, call_eq_ok carries.bare]
  rfl

theorem check_callFields (carries : record.Carries options sender) (valid : options.Valid)
    (recipient value data : Value) :
    GasOptions.check (record.callFields recipient value data) = .ok options := by
  refine GasOptions.check_of_valid valid ?_
  have kept := carries.options
  simp only [GasOptions.fields, List.forall_mem_cons] at kept ⊢
  obtain ⟨gas, gasPrice, feeCap, tipCap, accessList, _⟩ := kept
  exact ⟨congrArg some gas, congrArg some gasPrice, congrArg some feeCap, congrArg some tipCap,
    congrArg some accessList, List.forall_mem_nil _⟩

theorem sender_callFields (carries : record.Carries options sender) (isForm : IsForm sender)
    (recipient value data : Value) :
    required (record.callFields recipient value data) senderName Schema.address = .ok sender := by
  have given : find? (record.callFields recipient value data) senderName.spellings =
      some ("from_address", .str sender) :=
    congrArg (fun value => some ("from_address", value)) carries.sender
  exact required_of_find? given (address_of_isForm isForm)

/-- A recipient in any accepted spelling is brought to checksum form, and a value that the check of
numbers accepts to its number. -/
theorem makeCall_of_checked (carries : record.Carries options sender) (valid : options.Valid)
    (isForm : IsForm sender) {recipient value : Value} {form : String} {n : Int}
    (spelled : Address.read recipient = .ok form) (counted : natural value = .ok n)
    (data : List UInt8) :
    record.makeCall recipient value (.bytes data) = .ok ⟨options, sender, some form, n, data⟩ := by
  have given := ne_null_of_read spelled
  have checked : CallMessage.check (record.callFields recipient value (.bytes data)) =
      .ok ⟨options, sender, some form, n, data⟩ := by
    refine GasOptions.checkFees_eq_ok_iff.mpr ⟨?_, valid.unmixed⟩
    rw [check_callFields carries valid, sender_callFields carries isForm,
      optional_of_find? (find?_of_lookup recipient rfl [])
        (nullable_of_ok given (address_eq_ok_iff.mpr spelled)),
      optional_of_find? (find?_of_lookup value rfl []) counted,
      optional_of_find? (find?_of_lookup (.bytes data) rfl []) (a := data) rfl]
    rfl
  rw [makeCall_eq carries, checked]
  rfl

theorem makeCall_of_address (carries : record.Carries options sender) (valid : options.Valid)
    (isForm : IsForm sender) {recipient : Value} {form : String}
    (spelled : Address.read recipient = .ok form) {value : Int} (nonneg : 0 ≤ value)
    (data : List UInt8) :
    record.makeCall recipient (.int value) (.bytes data) =
      .ok ⟨options, sender, some form, value, data⟩ :=
  makeCall_of_checked carries valid isForm spelled (natural_int nonneg) data

/-- A recipient that is there but spells no address is the one issue of the message. -/
theorem makeCall_of_fault (carries : record.Carries options sender) (valid : options.Valid)
    (isForm : IsForm sender) {recipient : Value} {fault : Address.Fault} (given : recipient ≠ .null)
    (refused : Address.read recipient = .error fault) {value : Int} (nonneg : 0 ≤ value)
    (data : List UInt8) :
    record.makeCall recipient (.int value) (.bytes data) =
      .error (.invalid ⟨.call, [⟨[.key "to"], .refused (.address fault)⟩]⟩) := by
  have unread : optional (record.callFields recipient (.int value) (.bytes data)) "to" none
      (nullable Schema.address) =
        .faulty [⟨[.key "to"], .refused (.address fault)⟩] := by
    have issue : nullable Schema.address recipient =
        .faulty [⟨[], .refused (.address fault)⟩] := by
      unfold nullable
      split
      · contradiction
      · rw [address_eq_fault refused]
        rfl
    rw [optional_given (find?_of_lookup recipient rfl []), issue]
    rfl
  have checked : CallMessage.check (record.callFields recipient (.int value) (.bytes data)) =
      .faulty [⟨[.key "to"], .refused (.address fault)⟩] := by
    rw [CallMessage.check, check_callFields carries valid, sender_callFields carries isForm, unread,
      optional_of_find? (find?_of_lookup (.int value) rfl []) (natural_int nonneg),
      optional_of_find? (find?_of_lookup (.bytes data) rfl []) (a := data) rfl]
    rfl
  rw [makeCall_eq carries, checked]
  rfl

end Record

end LayerTwo
