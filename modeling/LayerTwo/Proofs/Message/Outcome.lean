import LayerTwo.Proofs.Abi.Call
import LayerTwo.Proofs.Message.Made
import LayerTwo.Proofs.Message.Recheck
import LayerTwo.Proofs.Value.Shown

/-! What building a call message from a transfer or a withdrawal comes to, in closed form. The
recipient, the token and the amount each have one place in the recipient, the value and the data of
the message. -/
namespace LayerTwo

open Address Abi Operation

/-- What is said of a built message shows its value, and nothing else that may be too long. -/
theorem isSome_builtNotice?_iff {what : String} {message : CallMessage} :
    (Record.builtNotice? what message).isSome = true ↔ Decimal.Short message.value := by
  have recipient : (Value.ofOption .str message.recipient).Short := by
    cases message.recipient <;> simp [Value.ofOption]
  obtain ⟨shown, written⟩ := Option.isSome_iff_exists.mp (Value.isSome_text?_iff.mpr recipient)
  rw [Record.builtNotice?, written, ← Decimal.isSome_text?_iff]
  cases Decimal.text? message.value <;> rfl

/-- A built message is handed over if its value can be shown. -/
theorem answers_logBuilt (what : String) (message : CallMessage) :
    Answers (do
      Record.logBuilt what message
      return message)
      (if Decimal.Short message.value then .ok message else .error (.badValue .unprintable)) := by
  unfold Record.logBuilt
  split_ifs with short
  · exact (answers_logShown _ _ (isSome_builtNotice?_iff.mpr short)).bind (answers_pure message)
  · have hidden : Record.builtNotice? what message = none :=
      Option.not_isSome_iff_eq_none.mp (mt isSome_builtNotice?_iff.mp short)
    rw [hidden]
    exact (answers_logShown_none _ _).bind_error

theorem answers_built (what : String) {made : Except Failure CallMessage} {message : CallMessage}
    (ok : made = .ok message) :
    Answers (ofExcept made >>= fun message => do
      Record.logBuilt what message
      return message)
      (if Decimal.Short message.value then .ok message else .error (.badValue .unprintable)) := by
  subst ok
  exact (answers_ofExcept _).bind (answers_logBuilt what message)

/-- A message without a value is logged and handed over, a failure is passed on. -/
theorem answers_built_of_zero (what : String) {made result : Except Failure CallMessage}
    (same : made = result) (zero : ∀ message, result = .ok message → message.value = 0) :
    Answers (ofExcept made >>= fun message => do
      Record.logBuilt what message
      return message) result := by
  subst same
  cases made with
  | ok message =>
    have short : Decimal.Short message.value := by
      rw [zero message rfl]
      decide
    have built := answers_logBuilt what message
    rw [if_pos short] at built
    exact (answers_ofExcept _).bind built
  | error failure => exact (answers_ofExcept _).bind_error

/-- A transfer gets past the warning about its amount. -/
def Record.warned (record : Record) : Bool :=
  record.zeroAmountNotice?.isSome || !(record.get "amount").same (.int 0)

theorem answers_warnZeroAmount (record : Record) : Answers record.warnZeroAmount
    (if record.warned then .ok () else .error (.badValue .unprintable)) := by
  unfold Record.warnZeroAmount Record.warned
  cases record.zeroAmountNotice? with
  | some notice =>
    rw [Option.isSome_some, Bool.true_or, if_pos rfl]
    split_ifs
    · exact answers_logShown _ _ rfl
    · exact answers_pure ()
  | none =>
    rw [Option.isSome_none, Bool.false_or]
    cases (record.get "amount").same (.int 0) with
    | true => exact answers_logShown_none .warning .messages
    | false => exact answers_pure ()

theorem answers_noteIgnoredBridge (record : Record) :
    Answers record.noteIgnoredBridge (.ok ()) := by
  unfold Record.noteIgnoredBridge
  split_ifs
  · exact answers_pure ()
  · exact answers_log _ _ _

namespace Transfer

variable {transfer : Transfer}

theorem carries (transfer : Transfer) :
    transfer.record.Carries transfer.options transfer.sender where
  bare := rfl
  options field member := congrArg (·.getD .null) (transfer.options.lookup_fields _ field member)
  sender := rfl

theorem answers_native (valid : transfer.Valid) (native : transfer.token = .native)
    (default : Value) :
    Answers (transfer.record.toCall default)
      (if Decimal.Short transfer.amount then
        .ok ⟨transfer.options, transfer.sender, some transfer.recipient, transfer.amount, []⟩
      else .error (.badValue .unprintable)) := by
  have carries := transfer.carries
  have warned : Answers transfer.record.warnZeroAmount (.ok ()) := answers_warnZeroAmount _
  obtain ⟨recipient, spelled⟩ := valid.recipient
  -- with its fields in view the look-ups in the record reduce, and the run goes step by step
  obtain ⟨options, own, amount, token, sender⟩ := transfer
  subst native spelled
  refine (answers_ofExcept _).bind (a := ()) ?_
  refine warned.bind ?_
  refine (answers_ofExcept (.ok true)).bind ?_
  exact answers_built "transfer" (Record.makeCall_of_address carries valid.options valid.sender
    (read_form recipient) valid.amount [])

theorem answers_erc20 (valid : transfer.Valid) {recipient contract : Account}
    (spelled : transfer.recipient = recipient.form)
    (held : transfer.token = .erc20 contract.form) (default : Value) :
    Answers (transfer.record.toCall default)
      (if transfer.amount < wordLimit then
        .ok ⟨transfer.options, transfer.sender, some contract.form, 0,
          transferData recipient transfer.amount.toNat⟩
      else .error (.encoding ⟨.str "transfer", .pack .mismatch⟩)) := by
  have carries := transfer.carries
  have warned : Answers transfer.record.warnZeroAmount (.ok ()) := answers_warnZeroAmount _
  have packed := pack_transfer recipient valid.amount
  obtain ⟨options, own, amount, token, sender⟩ := transfer
  subst spelled held
  refine (answers_ofExcept _).bind (a := ()) ?_
  refine warned.bind ?_
  refine (answers_ofExcept (.ok false)).bind ?_
  by_cases fits : amount < wordLimit
  · simp only [if_pos fits]
    refine (answers_packed (packed.trans (if_pos fits))).bind ?_
    refine answers_built_of_zero "transfer" (Record.makeCall_of_address carries valid.options
      valid.sender (read_form contract) (le_refl 0) (transferData recipient amount.toNat)) ?_
    rintro message ⟨⟩
    rfl
  · simp only [if_neg fits]
    exact (answers_unpacked (packed.trans (if_neg fits))).bind_error

end Transfer

namespace Withdrawal

variable {withdrawal : Withdrawal}

theorem carries (withdrawal : Withdrawal) :
    withdrawal.record.Carries withdrawal.options withdrawal.sender where
  bare := rfl
  options field member := congrArg (·.getD .null) (withdrawal.options.lookup_fields _ field member)
  sender := rfl

theorem answers_native (valid : withdrawal.Valid) {recipient : Account}
    (spelled : withdrawal.recipient = recipient.form) (native : withdrawal.token = .native)
    (default : Value) :
    Answers (withdrawal.record.toCall default)
      (if Decimal.Short withdrawal.amount then
        .ok ⟨withdrawal.options, withdrawal.sender, some nativeToken, withdrawal.amount,
          nativeWithdrawalData recipient⟩
      else .error (.badValue .unprintable)) := by
  have carries := withdrawal.carries
  obtain ⟨options, own, amount, token, bridge, sender⟩ := withdrawal
  subst spelled native
  refine (answers_ofExcept _).bind (a := ()) ?_
  refine (answers_ofExcept (.ok true)).bind ?_
  refine (answers_noteIgnoredBridge _).bind ?_
  refine (answers_packed (pack_nativeWithdrawal recipient)).bind ?_
  exact answers_built "withdrawal" (Record.makeCall_of_address carries valid.options valid.sender
    (form_nativeAccount ▸ read_form nativeAccount) valid.amount (nativeWithdrawalData recipient))

/-- The bridge that a token withdrawal goes through: its own one before the default one. -/
def bridgeOr (withdrawal : Withdrawal) (default : Value) : Value :=
  match withdrawal.bridge with
  | some form => .str form
  | none => default

/-- An own bridge counts as given, because a form is never empty. -/
theorem answers_chooseBridge (valid : withdrawal.Valid) (default : Value) :
    Answers (withdrawal.record.chooseBridge default)
      (if (withdrawal.bridgeOr default).isNull then .error (.badValue .noBridge)
      else .ok (withdrawal.bridgeOr default)) := by
  have chosen : (if (withdrawal.record.get "bridge_address").truthy then
      withdrawal.record.get "bridge_address" else default) = withdrawal.bridgeOr default := by
    obtain ⟨options, own, amount, token, bridge, sender⟩ := withdrawal
    cases bridge with
    | none => rfl
    | some form =>
      obtain ⟨account, rfl⟩ := valid.bridge form rfl
      have given : (Value.str account.form).truthy = true := by
        simpa [Value.truthy] using account.form_ne_empty
      exact if_pos given
  have shown : withdrawal.record.noBridgeNotice?.isSome = true := by
    rw [Record.noBridgeNotice?, Value.isSome_return, Value.isSome_text?_iff]
    obtain ⟨options, own, amount, token, bridge, sender⟩ := withdrawal
    cases token with
    | native => exact Value.short_null
    | erc20 contract => exact Value.short_str _
  simp only [Record.chooseBridge, chosen]
  split_ifs
  · exact (answers_logShown _ _ shown).bind (answers_fail _)
  · exact answers_pure _

/-- What a token withdrawal comes to whose call data is there. -/
def through (withdrawal : Withdrawal) (bridge : Value) (data : List UInt8) :
    Except Failure CallMessage :=
  if bridge.isNull then .error (.badValue .noBridge)
  else
    match Address.read bridge with
    | .ok form => .ok ⟨withdrawal.options, withdrawal.sender, some form, 0, data⟩
    | .error fault => .error (.invalid ⟨.call, [⟨[.key "to"], .refused (.address fault)⟩]⟩)

theorem value_of_through {bridge : Value} {data : List UInt8} {message : CallMessage}
    (ok : withdrawal.through bridge data = .ok message) : message.value = 0 := by
  unfold through at ok
  split_ifs at ok
  split at ok
  · cases ok
    rfl
  · contradiction

theorem through_form (withdrawal : Withdrawal) (bridge : Account) (data : List UInt8) :
    withdrawal.through (.str bridge.form) data =
      .ok ⟨withdrawal.options, withdrawal.sender, some bridge.form, 0, data⟩ := by
  have given : ¬(Value.str bridge.form).isNull = true := Bool.false_ne_true
  rw [through, if_neg given, read_form]

theorem makeCall_bridge (bridge : Value) (valid : withdrawal.Valid)
    (given : ¬bridge.isNull = true) (data : List UInt8) :
    withdrawal.record.makeCall bridge (.int 0) (.bytes data) = withdrawal.through bridge data := by
  have some : bridge ≠ .null := mt Value.isNull_iff.mpr given
  rw [through, if_neg given]
  cases read : Address.read bridge with
  | ok form =>
    exact Record.makeCall_of_address withdrawal.carries valid.options valid.sender read
      (le_refl 0) data
  | error fault =>
    exact Record.makeCall_of_fault withdrawal.carries valid.options valid.sender some read
      (le_refl 0) data

/-- The call is encoded before the bridge is looked at. -/
theorem answers_erc20 (valid : withdrawal.Valid) {recipient contract : Account}
    (spelled : withdrawal.recipient = recipient.form)
    (held : withdrawal.token = .erc20 contract.form) (default : Value) :
    Answers (withdrawal.record.toCall default)
      (if withdrawal.amount < wordLimit then
        withdrawal.through (withdrawal.bridgeOr default)
          (tokenWithdrawalData recipient contract withdrawal.amount.toNat)
      else .error (.encoding ⟨.str "withdraw", .pack .mismatch⟩)) := by
  have packed := pack_tokenWithdrawal recipient contract valid.amount
  have chosen := answers_chooseBridge valid default
  have made := fun given => makeCall_bridge (withdrawal.bridgeOr default) valid given
    (tokenWithdrawalData recipient contract withdrawal.amount.toNat)
  obtain ⟨options, own, amount, token, bridge, sender⟩ := withdrawal
  subst spelled held
  refine (answers_ofExcept _).bind (a := ()) ?_
  refine (answers_ofExcept (.ok false)).bind ?_
  by_cases fits : amount < wordLimit
  · simp only [if_pos fits]
    refine (answers_packed (packed.trans (if_pos fits))).bind ?_
    split_ifs at chosen with missing
    · rw [through, if_pos missing]
      exact chosen.bind_error
    · refine chosen.bind ?_
      exact answers_built_of_zero "withdrawal" (made missing) fun _ => value_of_through
  · simp only [if_neg fits]
    exact (answers_unpacked (packed.trans (if_neg fits))).bind_error

end Withdrawal

end LayerTwo
