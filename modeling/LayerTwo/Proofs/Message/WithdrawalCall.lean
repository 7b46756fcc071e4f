import LayerTwo.Proofs.Message.Outcome

/-! Every outcome of a withdrawal. The native currency is withdrawn whatever the bridges are, if the
amount can be written in digits. A token withdrawal that moves more than a word holds is refused for
that alone; any other one goes through its own bridge, else through the default one, which is not
looked at before. -/
namespace LayerTwo

open Address Abi Schema

namespace Withdrawal

/-- The message calls the system contract of the native currency, which takes the amount with it. -/
structure WithdrawsNative (withdrawal : Withdrawal) (message : CallMessage) : Prop where
  sender : message.sender = withdrawal.sender
  options : message.options = withdrawal.options
  recipient : message.recipient = some nativeToken
  value : message.value = withdrawal.amount
  length : message.data.length = 36
  data : ∃ recipient : Account, withdrawal.recipient = recipient.form ∧
    message.data = selectorOf "withdraw(address)" ++ accountWord recipient

/-- The message calls a bridge with the recipient, the token contract and the amount. -/
structure WithdrawsToken (withdrawal : Withdrawal) (contract bridge : String)
    (message : CallMessage) : Prop where
  sender : message.sender = withdrawal.sender
  options : message.options = withdrawal.options
  recipient : message.recipient = some bridge
  value : message.value = 0
  length : message.data.length = 100
  data : ∃ (recipient token : Account) (amount : Nat) (word : List UInt8),
    withdrawal.recipient = recipient.form ∧ contract = token.form ∧
    withdrawal.amount = amount ∧ IsWord word amount ∧
    message.data = selectorOf "withdraw(address,address,uint256)" ++ accountWord recipient ++
      accountWord token ++ word

/-- What a token withdrawal whose amount fits a word is to come to: its own bridge is preferred, a
default one that is no address is the fault of the message. -/
def ComesThrough (withdrawal : Withdrawal) (contract : String) (default : Value)
    (result : Except Failure CallMessage) : Prop :=
  match withdrawal.bridge with
  | some bridge =>
    ∃ message, result = .ok message ∧ withdrawal.WithdrawsToken contract bridge message
  | none =>
    if default.isNull then result = .error (.badValue .noBridge)
    else
      match Address.read default with
      | .ok form =>
        ∃ message, result = .ok message ∧ withdrawal.WithdrawsToken contract form message
      | .error _ => ∃ issues, result = .error (.invalid ⟨.call, issues⟩)

/-- What a withdrawal is to come to. -/
def ComesTo (withdrawal : Withdrawal) (default : Value) (result : Except Failure CallMessage) :
    Prop :=
  match withdrawal.token with
  | .native =>
    if Decimal.Short withdrawal.amount then
      ∃ message, result = .ok message ∧ withdrawal.WithdrawsNative message
    else result = .error (.badValue .unprintable)
  | .erc20 contract =>
    if 2 ^ 256 ≤ withdrawal.amount then
      ∃ fault, result = .error (.encoding ⟨.str "withdraw", fault⟩)
    else withdrawal.ComesThrough contract default result

variable {withdrawal : Withdrawal} {recipient contract : Account}

theorem withdrawsNative (spelled : withdrawal.recipient = recipient.form) :
    withdrawal.WithdrawsNative ⟨withdrawal.options, withdrawal.sender, some nativeToken,
      withdrawal.amount, nativeWithdrawalData recipient⟩ where
  sender := rfl
  options := rfl
  recipient := rfl
  value := rfl
  length := length_nativeWithdrawalData recipient
  data := ⟨recipient, spelled, rfl⟩

theorem withdrawsToken (contract : Account) (valid : withdrawal.Valid)
    (spelled : withdrawal.recipient = recipient.form) (fits : withdrawal.amount < wordLimit)
    (bridge : String) :
    withdrawal.WithdrawsToken contract.form bridge ⟨withdrawal.options, withdrawal.sender,
      some bridge, 0, tokenWithdrawalData recipient contract withdrawal.amount.toNat⟩ where
  sender := rfl
  options := rfl
  recipient := rfl
  value := rfl
  length := length_tokenWithdrawalData _ _ _
  data := by
    have nonneg := valid.amount
    exact ⟨recipient, contract, withdrawal.amount.toNat, word withdrawal.amount.toNat, spelled, rfl,
      (Int.toNat_of_nonneg nonneg).symm, isWord_word (by omega), rfl⟩

theorem comesThrough (valid : withdrawal.Valid) (spelled : withdrawal.recipient = recipient.form)
    (fits : withdrawal.amount < wordLimit) (default : Value) :
    withdrawal.ComesThrough contract.form default (withdrawal.through (withdrawal.bridgeOr default)
      (tokenWithdrawalData recipient contract withdrawal.amount.toNat)) := by
  have carried := withdrawsToken contract valid spelled fits
  cases own : withdrawal.bridge with
  | some form =>
    -- an own bridge was checked with the withdrawal, so it reads as itself
    obtain ⟨bridge, rfl⟩ := valid.bridge form own
    simp only [ComesThrough, bridgeOr, own, through_form]
    exact ⟨_, rfl, carried bridge.form⟩
  | none =>
    simp only [ComesThrough, bridgeOr, own]
    split_ifs with missing
    · rw [through, if_pos missing]
    · rw [through, if_neg missing]
      cases Address.read default with
      | ok form => exact ⟨_, rfl, carried form⟩
      | error fault => exact ⟨_, rfl⟩

end Withdrawal

/-- Every withdrawal that is made comes to what its token, its amount and the two bridges say. -/
theorem withdrawal_toCall {record : Record} (made : record.Made .withdrawal) :
    ∃ withdrawal : Withdrawal, record = withdrawal.record ∧
      ∀ default loaded, withdrawal.ComesTo default (record.toCall default loaded).result := by
  obtain ⟨withdrawal, valid, rfl⟩ := made.withdrawal
  obtain ⟨recipient, spelled⟩ := valid.recipient
  refine ⟨withdrawal, rfl, fun default loaded => ?_⟩
  rcases valid.token.native_or_erc20 with native | ⟨contract, held⟩
  · have result := Withdrawal.answers_native valid spelled native default loaded
    simp only [Withdrawal.ComesTo, native]
    rw [result]
    split_ifs
    · exact ⟨_, rfl, Withdrawal.withdrawsNative spelled⟩
    · rfl
  · have result := Withdrawal.answers_erc20 valid spelled held default loaded
    have limit : 2 ^ 256 ≤ withdrawal.amount ↔ ¬withdrawal.amount < wordLimit := by
      rw [wordLimit_eq, not_lt]
      norm_num
    simp only [Withdrawal.ComesTo, held, limit]
    rw [result]
    by_cases fits : withdrawal.amount < wordLimit
    · rw [if_pos fits, if_neg (not_not.mpr fits)]
      exact Withdrawal.comesThrough valid spelled fits default
    · rw [if_neg fits, if_pos fits]
      exact ⟨_, rfl⟩

/-- An empty text is given as a bridge and is no address. -/
example : Address.read (.str "") = .error ⟨.malformed, .str ""⟩ := rfl

/-- Seven units of a token, withdrawn through the default bridge. -/
theorem withdrawal_toCall_seven : ∃ record message,
    Record.make .withdrawal [("from", .str (Account.uniform 1).form),
      ("to", .str (Account.uniform 2).form), ("amount", .int 7),
      ("token", .str (Account.uniform 3).form)] = .ok record ∧
    (record.toCall (.str (Account.uniform 4).form) []).result = .ok message ∧
    message.recipient = some (Account.uniform 4).form ∧ message.data.length = 100 := by
  have read : ∀ byte, Schema.address (.str (Account.uniform byte).form) =
      .ok (Account.uniform byte).form := fun byte => address_of_isForm ⟨_, rfl⟩
  have token := Token.check_form (Account.form_uniform_ne_zero (show (3 : UInt8) ≠ 0 by decide))
  have made : Record.make .withdrawal [("from", .str (Account.uniform 1).form),
      ("to", .str (Account.uniform 2).form), ("amount", .int 7),
      ("token", .str (Account.uniform 3).form)] = .ok (Withdrawal.record
        ⟨⟨0, none, none, none, []⟩, (Account.uniform 2).form, 7, .erc20 (Account.uniform 3).form,
          none, (Account.uniform 1).form⟩) := by
    simp [Record.make, Withdrawal.check, required, Schema.optional, find?, List.lookup, senderName,
      Name.spellings, read, token]
    rfl
  obtain ⟨withdrawal, same, outcome⟩ := withdrawal_toCall (.ofInputs _ made)
  have result := outcome (.str (Account.uniform 4).form) []
  obtain rfl := Withdrawal.record_injective same
  have small : ¬(2 ^ 256 : Int) ≤ 7 := by norm_num
  simp only [Withdrawal.ComesTo, if_neg small, Withdrawal.ComesThrough, read_form] at result
  obtain ⟨message, succeeded, call⟩ := result
  exact ⟨_, message, made, succeeded, call.recipient, call.length⟩

/-- A withdrawal of the least amount of the native currency that cannot be written. -/
def Withdrawal.vast : Withdrawal where
  options := ⟨0, none, none, none, []⟩
  recipient := (Account.uniform 2).form
  amount := (10 ^ Decimal.maxDigits : Nat)
  token := .native
  bridge := none
  sender := (Account.uniform 1).form

theorem Withdrawal.valid_vast : Withdrawal.vast.Valid where
  options := ⟨le_refl 0, nofun, nofun, nofun, nofun, rfl⟩
  recipient := ⟨_, rfl⟩
  amount := Int.natCast_nonneg _
  token := .native
  bridge := nofun
  sender := ⟨_, rfl⟩

/-- It is made, and no message is built from it. -/
theorem withdrawal_toCall_vast : Withdrawal.vast.record.Made .withdrawal ∧
    Withdrawal.vast.token = .native ∧ ∀ default loaded,
      (Withdrawal.vast.record.toCall default loaded).result = .error (.badValue .unprintable) := by
  refine ⟨Withdrawal.made_of_valid Withdrawal.valid_vast, rfl, fun default loaded => ?_⟩
  have result := Withdrawal.answers_native Withdrawal.valid_vast rfl rfl default loaded
  exact result.trans (if_neg Decimal.not_short_pow)

end LayerTwo
