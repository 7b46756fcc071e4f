import LayerTwo.Message.Intent
import LayerTwo.Proofs.Address.Form
import LayerTwo.Proofs.Schema.Checked

/-! What a check establishes about the message it lets through: every address is in checksum form,
no number is negative, no token contract has the zero address and the fees are not mixed. Options
with these properties pass their own check again unchanged. -/
namespace LayerTwo

open Schema Address

/-- The text is the checksum form of some account. -/
def IsForm (text : String) : Prop := ∃ account : Account, text = account.form

theorem isForm_of_address {value : Value} {form : String}
    (accepted : Schema.address value = .ok form) : IsForm form :=
  read_eq_ok (address_eq_ok_iff.mp accepted)

theorem address_of_isForm {form : String} (isForm : IsForm form) :
    Schema.address (.str form) = .ok form := by
  obtain ⟨account, rfl⟩ := isForm
  exact address_eq_ok_iff.mpr (read_form account)

theorem isForm_of_required {inputs : Entries} {name : Name} {form : String}
    (accepted : required inputs name Schema.address = .ok form) : IsForm form := by
  obtain ⟨value, read⟩ := required_eq_ok accepted
  exact isForm_of_address read

theorem nonneg_of_optional {inputs : Entries} {name : Name} {n : Int}
    (accepted : optional inputs name 0 natural = .ok n) : 0 ≤ n := by
  rcases optional_eq_ok accepted with rfl | ⟨value, read⟩
  · exact le_refl 0
  · exact natural_eq_ok read

/-- Every part of an optional field that is set has passed the check of the field. -/
theorem checked_of_optional {α : Type} {inputs : Entries} {name : Name} {check : Value → Checked α}
    {result : Option α} (accepted : optional inputs name none (nullable check) = .ok result)
    {a : α} (given : result = some a) : ∃ value, check value = .ok a := by
  rcases optional_eq_ok accepted with rfl | ⟨value, read⟩
  · contradiction
  · exact ⟨value, nullable_eq_ok read given⟩

theorem nonneg_of_nullable {inputs : Entries} {name : Name} {fee : Option Int}
    (accepted : optional inputs name none (nullable natural) = .ok fee) :
    ∀ n, fee = some n → 0 ≤ n := by
  intro n given
  obtain ⟨value, read⟩ := checked_of_optional accepted given
  exact natural_eq_ok read

/-! Options -/

structure GasOptions.Valid (options : GasOptions) : Prop where
  gas : 0 ≤ options.gas
  gasPrice : ∀ n, options.gasPrice = some n → 0 ≤ n
  feeCap : ∀ n, options.feeCap = some n → 0 ≤ n
  tipCap : ∀ n, options.tipCap = some n → 0 ≤ n
  accessList : ∀ entry ∈ options.accessList, IsForm entry.address
  unmixed : options.mixesFees = false

theorem AccessEntry.isForm_of_checkFields {inputs : Entries} {entry : AccessEntry}
    (accepted : AccessEntry.checkFields inputs = .ok entry) : IsForm entry.address := by
  obtain ⟨_, _, made, _, rfl⟩ := Checked.seq_eq_ok_iff.mp accepted
  obtain ⟨address, read, rfl⟩ := Checked.map_eq_ok_iff.mp made
  exact isForm_of_required read

theorem AccessEntry.isForm_of_check {value : Value} {entry : AccessEntry}
    (accepted : AccessEntry.check value = .ok entry) : IsForm entry.address := by
  obtain ⟨inputs, _, checked⟩ := Checked.andThen_eq_ok_iff.mp accepted
  exact isForm_of_checkFields checked

/-- Options that are checked and whose fees are not mixed are valid. -/
theorem GasOptions.valid_of_check {inputs : Entries} {options : GasOptions}
    (accepted : GasOptions.check inputs = .ok options) (unmixed : options.mixesFees = false) :
    options.Valid := by
  simp only [GasOptions.check, Checked.seq_eq_ok_iff, Checked.map_eq_ok_iff] at accepted
  obtain ⟨_, accessList, ⟨_, tipCap, ⟨_, feeCap, ⟨_, gasPrice, ⟨gas, gasRead, rfl⟩, priceRead, rfl⟩,
    capRead, rfl⟩, tipRead, rfl⟩, listRead, rfl⟩ := accepted
  refine ⟨nonneg_of_optional gasRead, nonneg_of_nullable priceRead, nonneg_of_nullable capRead,
    nonneg_of_nullable tipRead, ?_, unmixed⟩
  intro entry member
  rcases optional_eq_ok listRead with rfl | ⟨value, read⟩
  · contradiction
  · obtain ⟨item, checked⟩ := sequence_eq_ok read member
    exact AccessEntry.isForm_of_check checked

theorem GasOptions.checkFees_eq_ok_iff {α : Type} {optionsOf : α → GasOptions}
    {message : Checked α} {m : α} : GasOptions.checkFees optionsOf message = .ok m ↔
      message = .ok m ∧ (optionsOf m).mixesFees = false := by
  rw [GasOptions.checkFees, Checked.andThen_eq_ok_iff]
  constructor
  · rintro ⟨x, checked, kept⟩
    split_ifs at kept with mixed
    · contradiction
    · cases kept
      exact ⟨checked, by simpa using mixed⟩
  · rintro ⟨checked, unmixed⟩
    exact ⟨m, checked, by simp [unmixed]⟩

/-! Tokens -/

/-- A token contract has an address in checksum form other than the zero address. -/
inductive Token.Valid : Token → Prop where
  | native : Valid .native
  | erc20 {account : Account} : account.form ≠ Address.zero → Valid (.erc20 account.form)

theorem Token.Valid.native_or_erc20 {token : Token} (valid : token.Valid) :
    token = .native ∨ ∃ contract : Account, token = .erc20 contract.form := by
  cases valid with
  | native => exact Or.inl rfl
  | erc20 => exact Or.inr ⟨_, rfl⟩

theorem Token.valid_ofAddress {value : Value} {form : String} (read : Address.read value = .ok form) :
    (Token.ofAddress form).Valid := by
  obtain ⟨account, rfl⟩ := read_eq_ok read
  unfold Token.ofAddress
  split_ifs with zero
  · exact .native
  · exact .erc20 zero

theorem Token.contract_of_checkErc20 {inputs : Entries} {token : Token}
    (accepted : Token.checkErc20 inputs = .ok token) :
    ∃ contract : Account, contract.form ≠ Address.zero ∧ token = .erc20 contract.form := by
  obtain ⟨_, address, tagged, required, rfl⟩ := Checked.seq_eq_ok_iff.mp accepted
  obtain ⟨_, _, rfl⟩ := Checked.map_eq_ok_iff.mp tagged
  obtain ⟨value, checked⟩ := required_eq_ok required
  obtain ⟨form, read, kept⟩ := Checked.andThen_eq_ok_iff.mp checked
  split_ifs at kept with zero
  · contradiction
  · cases kept
    obtain ⟨account, rfl⟩ := isForm_of_address read
    exact ⟨account, zero, rfl⟩

theorem Token.valid_of_checkErc20 {inputs : Entries} {token : Token}
    (accepted : Token.checkErc20 inputs = .ok token) : token.Valid := by
  obtain ⟨contract, other, rfl⟩ := contract_of_checkErc20 accepted
  exact .erc20 other

theorem Token.valid_of_checkTagged {inputs : Entries} {token : Token}
    (accepted : Token.checkTagged inputs = .ok token) : token.Valid := by
  unfold Token.checkTagged at accepted
  split at accepted
  · contradiction
  · split at accepted
    · have checked := Checked.under_eq_ok_iff.mp accepted
      obtain ⟨_, _, rfl⟩ := Checked.map_eq_ok_iff.mp checked
      exact .native
    · exact valid_of_checkErc20 (Checked.under_eq_ok_iff.mp accepted)
    · contradiction

theorem Token.valid_of_check {value : Value} {token : Token}
    (accepted : Token.check value = .ok token) : token.Valid := by
  unfold Token.check at accepted
  split at accepted
  · rename_i s
    split at accepted
    · rename_i resolved same
      cases accepted
      cases read : Address.read (.str s) with
      | ok form =>
        simp only [Token.resolve, read, Except.map] at same
        cases same
        exact valid_ofAddress read
      | error fault =>
        simp only [Token.resolve, read, Except.map] at same
        contradiction
    · contradiction
  · exact valid_of_checkTagged accepted
  · exact valid_of_checkTagged accepted
  · contradiction

theorem Token.valid_of_optional {inputs : Entries} {name : Name} {token : Token}
    (accepted : optional inputs name .native Token.check = .ok token) : token.Valid := by
  rcases optional_eq_ok accepted with rfl | ⟨value, checked⟩
  · exact .native
  · exact valid_of_check checked

/-! Call messages -/

structure CallMessage.Valid (message : CallMessage) : Prop where
  options : message.options.Valid
  sender : IsForm message.sender
  recipient : ∀ form, message.recipient = some form → IsForm form
  value : 0 ≤ message.value

theorem CallMessage.valid_of_check {inputs : Entries} {message : CallMessage}
    (accepted : CallMessage.check inputs = .ok message) : message.Valid := by
  simp only [CallMessage.check, GasOptions.checkFees_eq_ok_iff, Checked.seq_eq_ok_iff,
    Checked.map_eq_ok_iff] at accepted
  obtain ⟨⟨_, data, ⟨_, value, ⟨_, recipient, ⟨_, sender, ⟨options, optionsRead, rfl⟩,
    senderRead, rfl⟩, recipientRead, rfl⟩, valueRead, rfl⟩, dataRead, rfl⟩, unmixed⟩ := accepted
  refine ⟨GasOptions.valid_of_check optionsRead unmixed, isForm_of_required senderRead, ?_,
    nonneg_of_optional valueRead⟩
  intro form given
  obtain ⟨value, read⟩ := checked_of_optional recipientRead given
  exact isForm_of_address read

/-! Transfers and withdrawals -/

structure Transfer.Valid (transfer : Transfer) : Prop where
  options : transfer.options.Valid
  recipient : IsForm transfer.recipient
  amount : 0 ≤ transfer.amount
  token : transfer.token.Valid
  sender : IsForm transfer.sender

theorem Transfer.valid_of_check {inputs : Entries} {transfer : Transfer}
    (accepted : Transfer.check inputs = .ok transfer) : transfer.Valid := by
  simp only [Transfer.check, GasOptions.checkFees_eq_ok_iff, Checked.seq_eq_ok_iff,
    Checked.map_eq_ok_iff] at accepted
  obtain ⟨⟨_, sender, ⟨_, token, ⟨_, amount, ⟨_, recipient, ⟨options, optionsRead, rfl⟩,
    recipientRead, rfl⟩, amountRead, rfl⟩, tokenRead, rfl⟩, senderRead, rfl⟩, unmixed⟩ := accepted
  obtain ⟨value, amountRead⟩ := required_eq_ok amountRead
  exact ⟨GasOptions.valid_of_check optionsRead unmixed, isForm_of_required recipientRead,
    natural_eq_ok amountRead, Token.valid_of_optional tokenRead, isForm_of_required senderRead⟩

structure Withdrawal.Valid (withdrawal : Withdrawal) : Prop where
  options : withdrawal.options.Valid
  recipient : IsForm withdrawal.recipient
  amount : 0 ≤ withdrawal.amount
  token : withdrawal.token.Valid
  bridge : ∀ form, withdrawal.bridge = some form → IsForm form
  sender : IsForm withdrawal.sender

theorem Withdrawal.valid_of_check {inputs : Entries} {withdrawal : Withdrawal}
    (accepted : Withdrawal.check inputs = .ok withdrawal) : withdrawal.Valid := by
  simp only [Withdrawal.check, GasOptions.checkFees_eq_ok_iff, Checked.seq_eq_ok_iff,
    Checked.map_eq_ok_iff] at accepted
  obtain ⟨⟨_, sender, ⟨_, bridge, ⟨_, token, ⟨_, amount, ⟨_, recipient, ⟨options, optionsRead, rfl⟩,
    recipientRead, rfl⟩, amountRead, rfl⟩, tokenRead, rfl⟩, bridgeRead, rfl⟩, senderRead, rfl⟩,
    unmixed⟩ := accepted
  obtain ⟨value, amountRead⟩ := required_eq_ok amountRead
  refine ⟨GasOptions.valid_of_check optionsRead unmixed, isForm_of_required recipientRead,
    natural_eq_ok amountRead, Token.valid_of_optional tokenRead, ?_, isForm_of_required senderRead⟩
  intro form given
  obtain ⟨value, read⟩ := checked_of_optional bridgeRead given
  exact isForm_of_address read

end LayerTwo
