import LayerTwo.Proofs.Message.Outcome

/-! No two different intents build the same call. The length of the call data tells the four kinds of
call apart, whatever the accounts in them are; within a kind the sender, the options and the words
of the call data, or the value of the message, give back all that was asked for. -/
namespace LayerTwo

open Address Abi Operation

/-- A transfer or a withdrawal, with the default bridge that it is built under. -/
inductive Intent where
  | transfer (transfer : Transfer) (default : Value)
  | withdrawal (withdrawal : Withdrawal) (default : Value)

namespace Intent

/-- The intent came out of a check. -/
def Made : Intent → Prop
  | .transfer t _ => t.record.Made .transfer
  | .withdrawal w _ => w.record.Made .withdrawal

def build : Intent → Operation Loaded CallMessage
  | .transfer t default => t.record.toCall default
  | .withdrawal w default => w.record.toCall default

/-- Two intents want the same. The bridges of token withdrawals are compared as addresses, whatever
their spelling; a withdrawal of the native currency goes through none. -/
def Agrees : Intent → Intent → Prop
  | .transfer a _, .transfer b _ =>
    a.sender = b.sender ∧ a.options = b.options ∧ a.token = b.token ∧ a.recipient = b.recipient ∧
      a.amount = b.amount
  | .withdrawal a first, .withdrawal b second =>
    a.sender = b.sender ∧ a.options = b.options ∧ a.token = b.token ∧ a.recipient = b.recipient ∧
      a.amount = b.amount ∧ (a.token ≠ .native → ∃ bridge,
        Address.read (a.bridgeOr first) = .ok bridge ∧
        Address.read (b.bridgeOr second) = .ok bridge)
  | _, _ => False

/-- The four kinds of message, by what they are built from. -/
inductive Builds : Intent → CallMessage → Prop where
  | nativeTransfer {t : Transfer} {default : Value} {message : CallMessage}
      (native : t.token = .native)
      (same : message = ⟨t.options, t.sender, some t.recipient, t.amount, []⟩) :
      Builds (.transfer t default) message
  | tokenTransfer {t : Transfer} {default : Value} {message : CallMessage}
      {recipient contract : Account} {amount : Nat} (spelled : t.recipient = recipient.form)
      (held : t.token = .erc20 contract.form) (moved : t.amount = amount)
      (fits : amount < wordLimit)
      (same : message = ⟨t.options, t.sender, some contract.form, 0,
        transferData recipient amount⟩) : Builds (.transfer t default) message
  | nativeWithdrawal {w : Withdrawal} {default : Value} {message : CallMessage}
      {recipient : Account} (spelled : w.recipient = recipient.form) (native : w.token = .native)
      (same : message = ⟨w.options, w.sender, some nativeToken, w.amount,
        nativeWithdrawalData recipient⟩) : Builds (.withdrawal w default) message
  | tokenWithdrawal {w : Withdrawal} {default : Value} {message : CallMessage}
      {recipient contract : Account} {amount : Nat} {bridge : String}
      (spelled : w.recipient = recipient.form) (held : w.token = .erc20 contract.form)
      (moved : w.amount = amount) (fits : amount < wordLimit)
      (read : Address.read (w.bridgeOr default) = .ok bridge)
      (same : message = ⟨w.options, w.sender, some bridge, 0,
        tokenWithdrawalData recipient contract amount⟩) : Builds (.withdrawal w default) message

variable {a b : Intent} {message : CallMessage}

theorem builds_transfer {t : Transfer} (valid : t.Valid) {default : Value} {loaded : Loaded}
    (built : (t.record.toCall default loaded).result = .ok message) :
    Builds (.transfer t default) message := by
  rcases valid.token.native_or_erc20 with native | ⟨contract, held⟩
  · have result := Transfer.answers_native valid native default loaded
    rw [built] at result
    split_ifs at result
    exact .nativeTransfer native (Except.ok.inj result)
  · obtain ⟨recipient, spelled⟩ := valid.recipient
    have nonneg := valid.amount
    have result := Transfer.answers_erc20 valid spelled held default loaded
    rw [built] at result
    split_ifs at result with fits
    exact .tokenTransfer spelled held (Int.toNat_of_nonneg nonneg).symm (by omega)
      (Except.ok.inj result)

theorem builds_withdrawal {w : Withdrawal} (valid : w.Valid) {default : Value} {loaded : Loaded}
    (built : (w.record.toCall default loaded).result = .ok message) :
    Builds (.withdrawal w default) message := by
  obtain ⟨recipient, spelled⟩ := valid.recipient
  rcases valid.token.native_or_erc20 with native | ⟨contract, held⟩
  · have result := Withdrawal.answers_native valid spelled native default loaded
    rw [built] at result
    split_ifs at result
    exact .nativeWithdrawal spelled native (Except.ok.inj result)
  · have nonneg := valid.amount
    have result := Withdrawal.answers_erc20 valid spelled held default loaded
    rw [built, Withdrawal.through] at result
    split_ifs at result with fits missing
    split at result
    · rename_i bridge read
      exact .tokenWithdrawal spelled held (Int.toNat_of_nonneg nonneg).symm (by omega) read
        (Except.ok.inj result)
    · contradiction

theorem builds_of_ok {loaded : Loaded} (made : a.Made)
    (built : (a.build loaded).result = .ok message) : a.Builds message := by
  cases a with
  | transfer t default => exact builds_transfer (Transfer.valid_of_made made) built
  | withdrawal w default => exact builds_withdrawal (Withdrawal.valid_of_made made) built

/-- The length of the call data that an intent comes to. -/
def width : Intent → Nat
  | .transfer t _ => if t.token = .native then 0 else 68
  | .withdrawal w _ => if w.token = .native then 36 else 100

theorem Builds.length (builds : a.Builds message) : message.data.length = a.width := by
  cases builds with
  | nativeTransfer native same => simp [width, native, same]
  | tokenTransfer _ held _ _ same => simp [width, held, same, length_transferData]
  | nativeWithdrawal _ native same => simp [width, native, same, length_nativeWithdrawalData]
  | tokenWithdrawal _ held _ _ _ same => simp [width, held, same, length_tokenWithdrawalData]

/-! What a message of each kind says about whatever else builds it -/

theorem Builds.agrees_nativeTransfer {t : Transfer} {default : Value} (native : t.token = .native)
    (right : b.Builds ⟨t.options, t.sender, some t.recipient, t.amount, []⟩)
    (widths : (transfer t default).width = b.width) : (transfer t default).Agrees b := by
  cases right with
  | nativeTransfer native' same =>
    simp only [CallMessage.mk.injEq, Option.some.injEq] at same
    obtain ⟨options, sender, recipient, amount, _⟩ := same
    exact ⟨sender, options, native.trans native'.symm, recipient, amount⟩
  | tokenTransfer _ held => simp [width, native, held] at widths
  | nativeWithdrawal _ native' => simp [width, native, native'] at widths
  | tokenWithdrawal _ held => simp [width, native, held] at widths

theorem Builds.agrees_tokenTransfer {t : Transfer} {default : Value} {recipient contract : Account}
    {amount : Nat} (spelled : t.recipient = recipient.form) (held : t.token = .erc20 contract.form)
    (moved : t.amount = amount) (fits : amount < wordLimit)
    (right : b.Builds ⟨t.options, t.sender, some contract.form, 0, transferData recipient amount⟩)
    (widths : (transfer t default).width = b.width) : (transfer t default).Agrees b := by
  cases right with
  | nativeTransfer native => simp [width, held, native] at widths
  | tokenTransfer spelled' held' moved' fits' same =>
    simp only [CallMessage.mk.injEq, Option.some.injEq, true_and] at same
    obtain ⟨options, sender, contracts, data⟩ := same
    obtain ⟨rfl, rfl⟩ := transferData_injective fits fits' data
    exact ⟨sender, options, by rw [held, held', contracts], spelled.trans spelled'.symm,
      moved.trans moved'.symm⟩
  | nativeWithdrawal _ native => simp [width, held, native] at widths
  | tokenWithdrawal _ held' => simp [width, held, held'] at widths

theorem Builds.agrees_nativeWithdrawal {w : Withdrawal} {default : Value} {recipient : Account}
    (spelled : w.recipient = recipient.form) (native : w.token = .native)
    (right : b.Builds ⟨w.options, w.sender, some nativeToken, w.amount,
      nativeWithdrawalData recipient⟩)
    (widths : (withdrawal w default).width = b.width) : (withdrawal w default).Agrees b := by
  cases right with
  | nativeTransfer native' => simp [width, native, native'] at widths
  | tokenTransfer _ held => simp [width, native, held] at widths
  | nativeWithdrawal spelled' native' same =>
    simp only [CallMessage.mk.injEq, true_and] at same
    obtain ⟨options, sender, amount, data⟩ := same
    obtain rfl := nativeWithdrawalData_injective data
    exact ⟨sender, options, native.trans native'.symm, spelled.trans spelled'.symm, amount,
      fun token => absurd native token⟩
  | tokenWithdrawal _ held => simp [width, native, held] at widths

theorem Builds.agrees_tokenWithdrawal {w : Withdrawal} {default : Value}
    {recipient contract : Account} {amount : Nat} {bridge : String}
    (spelled : w.recipient = recipient.form) (held : w.token = .erc20 contract.form)
    (moved : w.amount = amount) (fits : amount < wordLimit)
    (read : Address.read (w.bridgeOr default) = .ok bridge)
    (right : b.Builds ⟨w.options, w.sender, some bridge, 0,
      tokenWithdrawalData recipient contract amount⟩)
    (widths : (withdrawal w default).width = b.width) : (withdrawal w default).Agrees b := by
  cases right with
  | nativeTransfer native => simp [width, held, native] at widths
  | tokenTransfer _ held' => simp [width, held, held'] at widths
  | nativeWithdrawal _ native => simp [width, held, native] at widths
  | tokenWithdrawal spelled' held' moved' fits' read' same =>
    simp only [CallMessage.mk.injEq, Option.some.injEq, true_and] at same
    obtain ⟨options, sender, rfl, data⟩ := same
    obtain ⟨rfl, rfl, rfl⟩ := tokenWithdrawalData_injective fits fits' data
    exact ⟨sender, options, held.trans held'.symm, spelled.trans spelled'.symm,
      moved.trans moved'.symm, fun _ => ⟨bridge, read, read'⟩⟩

theorem Builds.agrees (left : a.Builds message) (right : b.Builds message) : a.Agrees b := by
  -- two intents of different kinds would differ in width
  have widths : a.width = b.width := left.length.symm.trans right.length
  cases left with
  | nativeTransfer native same =>
    subst same
    exact right.agrees_nativeTransfer native widths
  | tokenTransfer spelled held moved fits same =>
    subst same
    exact right.agrees_tokenTransfer spelled held moved fits widths
  | nativeWithdrawal spelled native same =>
    subst same
    exact right.agrees_nativeWithdrawal spelled native widths
  | tokenWithdrawal spelled held moved fits read same =>
    subst same
    exact right.agrees_tokenWithdrawal spelled held moved fits read widths

/-- Intents that were checked and that build equal messages want the same. -/
theorem agrees_of_same_call {first second : Loaded} {other : CallMessage} (left : a.Made)
    (right : b.Made) (leftBuilt : (a.build first).result = .ok message)
    (rightBuilt : (b.build second).result = .ok other) (same : message = other) :
    a.Agrees b := by
  subst same
  exact (builds_of_ok left leftBuilt).agrees (builds_of_ok right rightBuilt)

/-- Seven units of a token, withdrawn through the given bridge. -/
def sevenThrough (bridge : Option Account) : Withdrawal where
  options := ⟨0, none, none, none, []⟩
  recipient := (Account.uniform 2).form
  amount := 7
  token := .erc20 (Account.uniform 3).form
  bridge := bridge.map Account.form
  sender := (Account.uniform 1).form

theorem valid_sevenThrough (bridge : Option Account) : (sevenThrough bridge).Valid where
  options := ⟨le_refl 0, nofun, nofun, nofun, nofun, rfl⟩
  recipient := ⟨_, rfl⟩
  amount := by simp [sevenThrough]
  token := .erc20 (Account.form_uniform_ne_zero (by decide))
  bridge form given := by
    obtain ⟨account, _, rfl⟩ := Option.map_eq_some_iff.mp given
    exact ⟨account, rfl⟩
  sender := ⟨_, rfl⟩

/-- A withdrawal through its own bridge and one through the same bridge as the default are built to
one message. -/
theorem agrees_of_own_and_default : ∃ message,
    (build (.withdrawal (sevenThrough (some (.uniform 4))) .null) []).result = .ok message ∧
    (build (.withdrawal (sevenThrough none) (.str (Account.uniform 4).form)) []).result =
      .ok message ∧
    Agrees (.withdrawal (sevenThrough (some (.uniform 4))) .null)
      (.withdrawal (sevenThrough none) (.str (Account.uniform 4).form)) := by
  have own := valid_sevenThrough (some (.uniform 4))
  have bare := valid_sevenThrough none
  have left := Withdrawal.answers_erc20 own rfl rfl .null []
  have right := Withdrawal.answers_erc20 bare rfl rfl (.str (Account.uniform 4).form) []
  have fits : (7 : Int) < wordLimit := by
    rw [wordLimit_eq]
    norm_num
  have through : ∀ bridge, (sevenThrough bridge).through (.str (Account.uniform 4).form)
      (tokenWithdrawalData (.uniform 2) (.uniform 3) 7) = .ok ⟨⟨0, none, none, none, []⟩,
        (Account.uniform 1).form, some (Account.uniform 4).form, 0,
        tokenWithdrawalData (.uniform 2) (.uniform 3) 7⟩ := by
    intro bridge
    simp only [Withdrawal.through, read_form]
    rfl
  have leftBuilt := left.trans ((if_pos fits).trans (through _))
  have rightBuilt := right.trans ((if_pos fits).trans (through _))
  exact ⟨_, leftBuilt, rightBuilt, agrees_of_same_call (Withdrawal.made_of_valid own)
    (Withdrawal.made_of_valid bare) leftBuilt rightBuilt rfl⟩

end Intent

end LayerTwo
