import LayerTwo.Proofs.Message.Distinct
import LayerTwo.Proofs.Network.Lookup
import LayerTwo.Proofs.Result

/-! The bridge that a lookup gives, taken to the withdrawals that need one. The caller, the
environment and the table are asked in this order, and the first that says something decides, also
when it is no address. What is given is null or an address in its checksum form, so a withdrawal
goes through exactly that bridge. -/
namespace LayerTwo

open Address Abi Result

namespace Network

/-- The value is the one that decides about a network's bridge. An empty text says nothing unless it
stands in the table. -/
inductive InForce (registry : Registry) (name : String) (override : Value) : Value → Prop
  | override (given : override.truthy = true) : InForce registry name override override
  | environment {text : String} (passed : override.truthy = false)
      (set : registry.environment.lookup (variableName name .bridge) = some text)
      (nonempty : text ≠ "") : InForce registry name override (.str text)
  | table {settings : Entries} {bridge : Value} (passed : override.truthy = false)
      (unset : ∀ text,
        registry.environment.lookup (variableName name .bridge) = some text → text = "")
      (known : (registry.table?.getD bundled).lookup name = some (.dict settings))
      (listed : settings.lookup "l2DefaultBridge" = some bridge) (present : bridge ≠ .null) :
      InForce registry name override bridge

variable {registry : Registry} {name : String} {override value : Value}

/-- The value in force is brought to its checksum form or refused; no other is looked at. -/
theorem defaultBridge_of_inForce (force : InForce registry name override value) :
    (defaultBridge (.str name) override registry).result = bridgeAddress value := by
  refine (looks_defaultBridge name override registry).1.trans ?_
  cases force with
  | override given => exact if_pos given
  | environment passed set nonempty =>
    simp only [View.defaultBridge, passed, Registry.setting?_of_set set nonempty]
    rfl
  | @table settings _ passed unset known listed present =>
    have found : registry.view.network name = .ok (.dict settings) := by
      rw [View.network, Registry.view, known]
    have entry : (Value.dict settings).itemOrNull "l2DefaultBridge" = .ok value :=
      congrArg (fun entry : Option Value => Except.ok (entry.getD .null)) listed
    have given : ¬value.isNull = true := mt Value.isNull_iff.mp present
    simp only [View.defaultBridge, passed, Bool.false_eq_true, if_false,
      Registry.setting?_of_unset unset, found]
    change ((Value.dict settings).itemOrNull "l2DefaultBridge" >>= fun bridge =>
      if bridge.isNull then .ok .null else bridgeAddress bridge) = _
    rw [entry]
    exact if_neg given

theorem bridgeAddress_eq_ok {bridge : Value} (accepted : bridgeAddress value = .ok bridge) :
    ∃ account : Account, bridge = .str account.form := by
  unfold bridgeAddress at accepted
  split at accepted
  · rename_i read
    obtain ⟨account, rfl⟩ := read_eq_ok read
    exact ⟨account, (Except.ok.inj accepted).symm⟩
  · contradiction

/-- A bridge that a lookup gives was read as an address, unless there is none. -/
theorem View.defaultBridge_eq_ok {view : View} {bridge : Value}
    (given : view.defaultBridge name override = .ok bridge) :
    bridge = .null ∨ ∃ account : Account, bridge = .str account.form := by
  unfold defaultBridge at given
  split at given
  · exact .inr (bridgeAddress_eq_ok given)
  · split at given
    · exact .inr (bridgeAddress_eq_ok given)
    · obtain ⟨network, _, given⟩ := bind_eq_ok_iff.mp given
      obtain ⟨listed, _, given⟩ := bind_eq_ok_iff.mp given
      split_ifs at given
      · exact .inl (Except.ok.inj given).symm
      · exact .inr (bridgeAddress_eq_ok given)

end Network

namespace Withdrawal

/-- A token is withdrawn without a bridge of its own, and the amount fits a word. -/
structure NeedsBridge (withdrawal : Withdrawal) : Prop where
  made : withdrawal.record.Made .withdrawal
  token : withdrawal.token ≠ .native
  bridge : withdrawal.bridge = none
  amount : withdrawal.amount < 2 ^ 256

/-- All that is left open is the bridge. -/
theorem NeedsBridge.answers {withdrawal : Withdrawal} (needs : withdrawal.NeedsBridge) :
    ∃ data, ∀ default,
      Operation.Answers (withdrawal.record.toCall default) (withdrawal.through default data) := by
  have valid := valid_of_made needs.made
  obtain ⟨recipient, spelled⟩ := valid.recipient
  obtain native | ⟨contract, held⟩ := valid.token.native_or_erc20
  · exact absurd native needs.token
  · refine ⟨tokenWithdrawalData recipient contract withdrawal.amount.toNat, fun default => ?_⟩
    have answers := answers_erc20 valid spelled held default
    have fits : withdrawal.amount < wordLimit := by simpa [wordLimit_eq] using needs.amount
    have chosen : withdrawal.bridgeOr default = default := by rw [bridgeOr, needs.bridge]
    rwa [if_pos fits, chosen] at answers

end Withdrawal

namespace Network

/-- A lookup and the withdrawals that need what it gives fit together: it gives null, and then no
withdrawal is built, or an address in its checksum form, and then every withdrawal is built and goes
there. Where the value in force is no address the lookup refuses it. -/
theorem defaultBridge_withdrawal (registry : Registry) (name : String) (override : Value) :
    (∀ bridge, (defaultBridge (.str name) override registry).result = .ok bridge →
      (bridge = .null ∨ ∃ account : Account, bridge = .str account.form) ∧
      ∀ withdrawal : Withdrawal, withdrawal.NeedsBridge → ∀ loaded,
        (bridge = .null →
          (withdrawal.record.toCall bridge loaded).result = .error (.badValue .noBridge)) ∧
        ∀ form, bridge = .str form → ∃ message,
          (withdrawal.record.toCall bridge loaded).result = .ok message ∧
            message.recipient = some form) ∧
    ∀ value, InForce registry name override value → ∀ fault, Address.read value = .error fault →
      (defaultBridge (.str name) override registry).result = .error (.badValue (.address fault)) := by
  constructor
  · intro bridge given
    have shape := View.defaultBridge_eq_ok ((looks_defaultBridge name override registry).1 ▸ given)
    refine ⟨shape, fun withdrawal needs loaded => ?_⟩
    obtain ⟨data, answers⟩ := needs.answers
    rw [answers bridge loaded]
    constructor
    · rintro rfl
      rfl
    · rintro form rfl
      obtain none | ⟨account, same⟩ := shape
      · contradiction
      · obtain rfl := Value.str.inj same
        exact ⟨_, withdrawal.through_form account data, rfl⟩
  · intro value force fault refused
    rw [defaultBridge_of_inForce force, bridgeAddress, refused]

theorem needsBridge_sevenThrough : (Intent.sevenThrough none).NeedsBridge where
  made := Withdrawal.made_of_valid (Intent.valid_sevenThrough none)
  token := nofun
  bridge := rfl
  amount := by norm_num [Intent.sevenThrough]

/-- The environment names a bridge for the local network, and a withdrawal goes through it. -/
theorem defaultBridge_withdrawal_local :
    let form := (Account.uniform 4).form
    let registry : Registry := ⟨[(variableName "local" .bridge, form)], none⟩
    (defaultBridge (.str "local") .null registry).result = .ok (.str form) ∧
    ∃ message, ((Intent.sevenThrough none).record.toCall (.str form) []).result = .ok message ∧
      message.recipient = some form := by
  intro form registry
  have force : InForce registry "local" .null (.str form) :=
    .environment rfl (by simp [registry]) (Account.uniform 4).form_ne_empty
  have given : (defaultBridge (.str "local") .null registry).result = .ok (.str form) := by
    rw [defaultBridge_of_inForce force, bridgeAddress, read_form]
  obtain ⟨_, outcome⟩ := (defaultBridge_withdrawal registry "local" .null).1 _ given
  exact ⟨given, (outcome _ needsBridge_sevenThrough []).2 form rfl⟩

end Network

end LayerTwo
