import LayerTwo.Proofs.Message.Outcome

/-! A transfer becomes a call message unless it moves more of a token than a word holds, or more of
the native currency than can be written in digits. The message says the same as the transfer: in its
recipient and value for the native currency, in its call data for a token. -/
namespace LayerTwo

open Address Abi Schema

namespace Transfer

/-- The message carries out the transfer for its sender and under its options. -/
structure CarriedBy (transfer : Transfer) (message : CallMessage) : Prop where
  sender : message.sender = transfer.sender
  options : message.options = transfer.options
  native : transfer.token = .native → message.recipient = some transfer.recipient ∧
    message.value = transfer.amount ∧ message.data = []
  erc20 : ∀ contract, transfer.token = .erc20 contract →
    message.recipient = some contract ∧ message.value = 0 ∧ message.data.length = 68 ∧
    ∃ (recipient : Account) (amount : Nat) (word : List UInt8),
      transfer.recipient = recipient.form ∧ transfer.amount = amount ∧ IsWord word amount ∧
      message.data = selectorOf "transfer(address,uint256)" ++ List.replicate 12 0 ++
        recipient.val ++ word

variable {transfer : Transfer}

theorem carriedBy_native (native : transfer.token = .native) : transfer.CarriedBy
    ⟨transfer.options, transfer.sender, some transfer.recipient, transfer.amount, []⟩ where
  sender := rfl
  options := rfl
  native _ := ⟨rfl, rfl, rfl⟩
  erc20 contract held := by
    rw [native] at held
    contradiction

theorem carriedBy_erc20 (valid : transfer.Valid) {recipient contract : Account}
    (spelled : transfer.recipient = recipient.form)
    (held : transfer.token = .erc20 contract.form) (fits : transfer.amount < wordLimit) :
    transfer.CarriedBy ⟨transfer.options, transfer.sender, some contract.form, 0,
      transferData recipient transfer.amount.toNat⟩ where
  sender := rfl
  options := rfl
  native native := by
    rw [native] at held
    contradiction
  erc20 other named := by
    have same : Token.erc20 contract.form = .erc20 other := held.symm.trans named
    cases same
    have nonneg := valid.amount
    refine ⟨rfl, rfl, length_transferData _ _, recipient, transfer.amount.toNat,
      word transfer.amount.toNat, spelled, (Int.toNat_of_nonneg nonneg).symm,
      isWord_word (by omega), ?_⟩
    simp only [transferData, accountWord, List.append_assoc]

end Transfer

/-- An amount that fits a word can be written. -/
theorem Transfer.short_of_small {transfer : Transfer} (valid : transfer.Valid)
    (small : transfer.amount < 2 ^ 256) : Decimal.Short transfer.amount := by
  have nonneg := valid.amount
  exact Decimal.short_of_word (by omega)

/-- Every transfer that is made becomes a message, or it moves more of a token than a word holds and
its call cannot be encoded, or it moves an amount of the native currency that cannot be written. -/
theorem transfer_toCall {record : Record} (made : record.Made .transfer) :
    ∃ transfer : Transfer, record = transfer.record ∧ ∀ default loaded,
      ((∃ message, (record.toCall default loaded).result = .ok message) ↔
        transfer.token = .native ∧ Decimal.Short transfer.amount ∨ transfer.amount < 2 ^ 256) ∧
      (∀ message, (record.toCall default loaded).result = .ok message →
        transfer.CarriedBy message) ∧
      ∀ failure, (record.toCall default loaded).result = .error failure →
        transfer.token = .native ∧ failure = .badValue .unprintable ∨
          transfer.token ≠ .native ∧ ∃ fault, failure = .encoding ⟨.str "transfer", fault⟩ := by
  obtain ⟨transfer, valid, rfl⟩ := made.transfer
  obtain ⟨recipient, spelled⟩ := valid.recipient
  refine ⟨transfer, rfl, fun default loaded => ?_⟩
  rcases valid.token.native_or_erc20 with native | ⟨contract, held⟩
  · have result := Transfer.answers_native valid native default loaded
    rw [result]
    by_cases short : Decimal.Short transfer.amount
    · rw [if_pos short]
      refine ⟨⟨fun _ => Or.inl ⟨native, short⟩, fun _ => ⟨_, rfl⟩⟩, ?_, ?_⟩
      · rintro message ⟨⟩
        exact Transfer.carriedBy_native native
      · rintro failure ⟨⟩
    · rw [if_neg short]
      refine ⟨⟨?_, ?_⟩, ?_, ?_⟩
      · rintro ⟨message, ⟨⟩⟩
      · rintro (⟨_, written⟩ | small)
        · contradiction
        · exact absurd (Transfer.short_of_small valid small) short
      · rintro message ⟨⟩
      · rintro failure ⟨⟩
        exact Or.inl ⟨native, rfl⟩
  · have result := Transfer.answers_erc20 valid spelled held default loaded
    have token : transfer.token ≠ .native := by simp [held]
    have limit : transfer.amount < 2 ^ 256 ↔ transfer.amount < wordLimit := by
      rw [wordLimit_eq]
      norm_num
    rw [result, limit]
    by_cases fits : transfer.amount < wordLimit
    · rw [if_pos fits]
      refine ⟨⟨fun _ => Or.inr fits, fun _ => ⟨_, rfl⟩⟩, ?_, ?_⟩
      · rintro message ⟨⟩
        exact Transfer.carriedBy_erc20 valid spelled held fits
      · rintro failure ⟨⟩
    · rw [if_neg fits]
      refine ⟨⟨?_, ?_⟩, ?_, ?_⟩
      · rintro ⟨message, ⟨⟩⟩
      · rintro (⟨native, _⟩ | small)
        · contradiction
        · contradiction
      · rintro message ⟨⟩
      · rintro failure ⟨⟩
        exact Or.inr ⟨token, _, rfl⟩

/-- Seven units of a token, asked for by name and sent to its contract. -/
theorem transfer_toCall_seven : ∃ record message,
    Record.make .transfer [("from", .str (Account.uniform 1).form),
      ("to", .str (Account.uniform 2).form), ("amount", .int 7),
      ("token", .str (Account.uniform 3).form)] = .ok record ∧
    (record.toCall .null []).result = .ok message ∧
    message.recipient = some (Account.uniform 3).form ∧ message.data.length = 68 := by
  have read : ∀ byte, Schema.address (.str (Account.uniform byte).form) =
      .ok (Account.uniform byte).form := fun byte => address_of_isForm ⟨_, rfl⟩
  have token := Token.check_form (Account.form_uniform_ne_zero (show (3 : UInt8) ≠ 0 by decide))
  have made : Record.make .transfer [("from", .str (Account.uniform 1).form),
      ("to", .str (Account.uniform 2).form), ("amount", .int 7),
      ("token", .str (Account.uniform 3).form)] = .ok (Transfer.record
        ⟨⟨0, none, none, none, []⟩, (Account.uniform 2).form, 7, .erc20 (Account.uniform 3).form,
          (Account.uniform 1).form⟩) := by
    simp [Record.make, Transfer.check, required, Schema.optional, find?, List.lookup, senderName,
      Name.spellings, read, token]
    rfl
  obtain ⟨transfer, same, outcome⟩ := transfer_toCall (.ofInputs _ made)
  obtain ⟨succeeds, carried, _⟩ := outcome .null []
  obtain rfl := Transfer.record_injective same
  obtain ⟨message, result⟩ := succeeds.mpr (Or.inr (by norm_num))
  obtain ⟨contract, _, length, _⟩ := (carried message result).erc20 _ rfl
  exact ⟨_, message, made, result, contract, length⟩

/-- A transfer of the least amount of the native currency that cannot be written. -/
def Transfer.vast : Transfer where
  options := ⟨0, none, none, none, []⟩
  recipient := (Account.uniform 2).form
  amount := (10 ^ Decimal.maxDigits : Nat)
  token := .native
  sender := (Account.uniform 1).form

theorem Transfer.valid_vast : Transfer.vast.Valid where
  options := ⟨le_refl 0, nofun, nofun, nofun, nofun, rfl⟩
  recipient := ⟨_, rfl⟩
  amount := Int.natCast_nonneg _
  token := .native
  sender := ⟨_, rfl⟩

/-- It is made, and no message is built from it. -/
theorem transfer_toCall_vast : Transfer.vast.record.Made .transfer ∧
    Transfer.vast.token = .native ∧ ∀ default loaded,
      (Transfer.vast.record.toCall default loaded).result = .error (.badValue .unprintable) := by
  refine ⟨Transfer.made_of_valid Transfer.valid_vast, rfl, fun default loaded => ?_⟩
  have result := Transfer.answers_native Transfer.valid_vast rfl default loaded
  exact result.trans (if_neg Decimal.not_short_pow)

end LayerTwo
