import LayerTwo.Proofs.Address.Spelling
import LayerTwo.Proofs.Message.Outcome
import LayerTwo.Proofs.Schema.Alike

/-! The spelling of an address or a token never matters. Inputs that differ only in how they spell
accounts, or in which of its forms they give a token, are checked to the same transfer or withdrawal,
and together with alike default bridges they come to the same call message or failure. -/
namespace LayerTwo

open Address Abi Schema Operation

/-! Inputs that mean the same -/

/-- Two values are equal, or they spell one account. -/
inductive Address.Alike : Value → Value → Prop where
  | refl (value : Value) : Alike value value
  | spelled {v w : Value} {account : Account} (left : Spells v account) (right : Spells w account) :
      Alike v w

/-- Two tables are equal but for the spelling of the address in them. -/
structure AlikeTables (a b : Entries) : Prop where
  address : Option.Rel Address.Alike (a.lookup "address") (b.lookup "address")
  others : ∀ key ≠ "address", a.lookup key = b.lookup key

/-- Two values are equal, or tables that are equal but for the spelling of an address. -/
inductive AlikeItems : Value → Value → Prop where
  | refl (value : Value) : AlikeItems value value
  | tables {a b : Entries} (alike : AlikeTables a b) : AlikeItems (.dict a) (.dict b)

/-- Two access lists are equal but for the spelling of the addresses in them. -/
inductive AlikeLists : Value → Value → Prop where
  | refl (value : Value) : AlikeLists value value
  | list {xs ys : List Value} (each : List.Forall₂ AlikeItems xs ys) :
      AlikeLists (.list xs) (.list ys)
  | tuple {xs ys : List Value} (each : List.Forall₂ AlikeItems xs ys) :
      AlikeLists (.tuple xs) (.tuple ys)

/-- The forms in which a token field gives a token. The native currency may be left out, or be given
as the zero address. -/
inductive Token.Given : Token → Option Value → Prop where
  | omitted : Given .native none
  | zero {value : Value} (spells : Spells value (.uniform 0)) : Given .native (some value)
  | nativeTable {entries : Entries} (tagged : entries.lookup "kind" = some (.str "native")) :
      Given .native (some (.dict entries))
  | native : Given .native (some Token.native.record.toValue)
  | text {value : Value} {contract : Account} (other : contract ≠ .uniform 0)
      (spells : Spells value contract) : Given (.erc20 contract.form) (some value)
  | table {entries : Entries} {value : Value} {contract : Account} (other : contract ≠ .uniform 0)
      (tagged : entries.lookup "kind" = some (.str "erc20"))
      (held : entries.lookup "address" = some value) (spells : Spells value contract) :
      Given (.erc20 contract.form) (some (.dict entries))
  | erc20 {contract : Account} (other : contract ≠ .uniform 0) :
      Given (.erc20 contract.form) (some (Token.erc20 contract.form).record.toValue)

/-- Two token fields are equal but for the spelling of an address, or give one token. -/
inductive AlikeTokens : Option Value → Option Value → Prop where
  | items {given other : Option Value} (alike : Option.Rel AlikeItems given other) :
      AlikeTokens given other
  | token {given other : Option Value} {token : Token} (left : token.Given given)
      (right : token.Given other) : AlikeTokens given other

/-- The names under which a transfer or a withdrawal takes addresses. -/
def addressNames : List String := ["to", "from", "from_address", "bridge_address"]

/-- Two inputs are equal but for the spelling of addresses and the form of the token. -/
structure AlikeInputs (a b : Entries) : Prop where
  addresses : ∀ name ∈ addressNames, Option.Rel Address.Alike (a.lookup name) (b.lookup name)
  accessList : Option.Rel AlikeLists (a.lookup "access_list") (b.lookup "access_list")
  token : AlikeTokens (a.lookup "token") (b.lookup "token")
  others : ∀ name, name ∉ "access_list" :: "token" :: addressNames → a.lookup name = b.lookup name

/-! Checks of alike values -/

variable {v w : Value}

theorem Address.Alike.read_eq (alike : Address.Alike v w) :
    v = w ∨ ∃ form, Address.read v = .ok form ∧ Address.read w = .ok form := by
  cases alike with
  | refl => exact Or.inl rfl
  | spelled left right => exact Or.inr ⟨_, spells_iff.mp left, spells_iff.mp right⟩

theorem Address.Alike.address_eq (alike : Address.Alike v w) :
    Schema.address v = Schema.address w := by
  rcases alike.read_eq with rfl | ⟨form, left, right⟩
  · rfl
  · rw [address_eq_ok_iff.mpr left, address_eq_ok_iff.mpr right]

theorem Address.Alike.nullable_eq (alike : Address.Alike v w) :
    nullable Schema.address v = nullable Schema.address w := by
  refine nullable_congr ?_ alike.address_eq
  rcases alike.read_eq with rfl | ⟨form, left, right⟩
  · rfl
  · exact iff_of_false (ne_null_of_read left) (ne_null_of_read right)

namespace AlikeTables

variable {a b : Entries} (alike : AlikeTables a b)
include alike

theorem kind_eq (expected : String) : optional a "kind" () (Token.constant expected) =
    optional b "kind" () (Token.constant expected) :=
  optional_of_same (forall_spellings (alike.others "kind" (by decide))) ()

theorem contract_eq : required a "address" Token.contractAddress =
    required b "address" Token.contractAddress := by
  refine required_congr ?_ (forall_spellings alike.address)
  intro v w same
  rw [Token.contractAddress, Token.contractAddress, same.address_eq]

theorem tagged_eq : Token.checkTagged a = Token.checkTagged b := by
  have native : Token.checkNative a = Token.checkNative b := by
    rw [Token.checkNative, Token.checkNative, alike.kind_eq]
  have erc20 : Token.checkErc20 a = Token.checkErc20 b := by
    rw [Token.checkErc20, Token.checkErc20, alike.kind_eq, alike.contract_eq]
  unfold Token.checkTagged
  rw [alike.others "kind" (by decide), native, erc20]

theorem entry_eq : AccessEntry.checkFields a = AccessEntry.checkFields b := by
  have address : required a "address" Schema.address = required b "address" Schema.address :=
    required_congr (fun _ _ same => same.address_eq) (forall_spellings alike.address)
  have keys : optional a ⟨"storageKeys", "storage_keys"⟩ [] (sequence text) =
      optional b ⟨"storageKeys", "storage_keys"⟩ [] (sequence text) := by
    refine optional_of_same ?_ []
    intro spelling member
    refine alike.others spelling ?_
    rintro rfl
    simp [Name.spellings] at member
  rw [AccessEntry.checkFields, AccessEntry.checkFields, address, keys]

end AlikeTables

theorem AlikeItems.entry_eq (alike : AlikeItems v w) : AccessEntry.check v = AccessEntry.check w := by
  cases alike with
  | refl => rfl
  | tables alike => exact alike.entry_eq

theorem AlikeItems.token_eq (alike : AlikeItems v w) : Token.check v = Token.check w := by
  cases alike with
  | refl => rfl
  | tables alike => exact alike.tagged_eq

theorem AlikeLists.entries_eq (alike : AlikeLists v w) :
    sequence AccessEntry.check v = sequence AccessEntry.check w := by
  cases alike with
  | refl => rfl
  | list each | tuple each => exact items_congr (each.imp fun _ _ alike => alike.entry_eq) 0

/-! Forms of a token -/

theorem Token.check_of_spells {account : Account} (spells : Spells v account) :
    Token.check v = .ok (Token.ofAddress account.form) := by
  have accepted := spells_iff.mp spells
  obtain ⟨s, rfl, _⟩ := spells.digits
  simp only [check, resolve, accepted, Except.map]

theorem Token.Given.check {token : Token} (given : token.Given (some v)) :
    Token.check v = .ok token := by
  cases given with
  | zero spells =>
    rw [check_of_spells spells, ofAddress, if_pos form_uniform_zero]
  | @nativeTable entries tagged =>
    change checkTagged entries = _
    have kind : optional entries "kind" () (constant "native") = .ok () :=
      optional_of_find? (find?_of_lookup _ tagged []) rfl
    simp only [checkTagged, tagged, checkNative, kind]
    rfl
  | native => exact check_of_valid .native
  | text other spells =>
    rw [check_of_spells spells, ofAddress, if_neg (mt form_eq_zero_iff.mp other)]
  | @table entries value contract other tagged held spells =>
    change checkTagged entries = _
    have kind : optional entries "kind" () (constant "erc20") = .ok () :=
      optional_of_find? (find?_of_lookup _ tagged []) rfl
    have accepted : contractAddress value = .ok contract.form :=
      contractAddress_of_read (spells_iff.mp spells) (mt form_eq_zero_iff.mp other)
    have address : required entries "address" contractAddress = .ok contract.form :=
      required_of_find? (find?_of_lookup value held []) accepted
    simp only [checkTagged, tagged, checkErc20, kind, address]
    rfl
  | erc20 other => exact check_of_valid (.erc20 (mt form_eq_zero_iff.mp other))

theorem Token.Given.optional_eq {token : Token} {inputs : Entries}
    (given : token.Given (inputs.lookup "token")) :
    Schema.optional inputs "token" .native Token.check = .ok token := by
  generalize held : inputs.lookup "token" = field at given
  cases field with
  | some value => exact optional_of_find? (find?_of_lookup value held []) given.check
  | none =>
    cases given
    exact optional_of_lookup _ held

/-! Messages from alike inputs -/

namespace AlikeInputs

variable {a b : Entries} (alike : AlikeInputs a b)
include alike

theorem token_eq : Schema.optional a "token" .native Token.check =
    Schema.optional b "token" .native Token.check := by
  cases alike.token with
  | items items => exact optional_congr (fun _ _ alike => alike.token_eq) (forall_spellings items) _
  | token left right => rw [left.optional_eq, right.optional_eq]

theorem address_eq {name : Name} (named : ∀ spelling ∈ name.spellings, spelling ∈ addressNames) :
    required a name Schema.address = required b name Schema.address :=
  required_congr (fun _ _ same => same.address_eq) fun spelling member =>
    alike.addresses spelling (named spelling member)

theorem bridge_eq : Schema.optional a "bridge_address" none (nullable Schema.address) =
    Schema.optional b "bridge_address" none (nullable Schema.address) :=
  optional_congr (fun _ _ same => same.nullable_eq)
    (forall_spellings (alike.addresses "bridge_address" (by decide))) none

theorem amount_eq : required a "amount" natural = required b "amount" natural :=
  required_of_same (forall_spellings (alike.others "amount" (by decide)))

theorem options_eq : GasOptions.check a = GasOptions.check b := by
  have plain : ∀ (α : Type) (default : α) (check : Value → Checked α) (name : String),
      name ∉ "access_list" :: "token" :: addressNames →
      Schema.optional a name default check = Schema.optional b name default check := by
    intro α default check name other
    exact optional_of_same (forall_spellings (alike.others name other)) default
  have list : Schema.optional a "access_list" [] (sequence AccessEntry.check) =
      Schema.optional b "access_list" [] (sequence AccessEntry.check) :=
    optional_congr (fun _ _ same => same.entries_eq) (forall_spellings alike.accessList) []
  rw [GasOptions.check, GasOptions.check, plain _ _ _ "gas" (by decide),
    plain _ _ _ "gas_price" (by decide), plain _ _ _ "gas_fee_cap" (by decide),
    plain _ _ _ "gas_tip_cap" (by decide), list]

theorem transfer_eq : Transfer.check a = Transfer.check b := by
  rw [Transfer.check, Transfer.check, alike.options_eq, alike.address_eq (by decide),
    alike.amount_eq, alike.token_eq, alike.address_eq (by decide)]

theorem withdrawal_eq : Withdrawal.check a = Withdrawal.check b := by
  rw [Withdrawal.check, Withdrawal.check, alike.options_eq, alike.address_eq (by decide),
    alike.amount_eq, alike.token_eq, alike.bridge_eq, alike.address_eq (by decide)]

theorem make_eq {kind : Kind} (intent : kind = .transfer ∨ kind = .withdrawal) :
    Record.make kind a = Record.make kind b := by
  rcases intent with rfl | rfl
  · rw [Record.make, Record.make, alike.transfer_eq]
  · rw [Record.make, Record.make, alike.withdrawal_eq]

end AlikeInputs

/-! Calls under alike default bridges -/

theorem Withdrawal.through_eq {d e : Value} (alike : Address.Alike d e) (withdrawal : Withdrawal)
    (data : List UInt8) : withdrawal.through (withdrawal.bridgeOr d) data =
      withdrawal.through (withdrawal.bridgeOr e) data := by
  unfold bridgeOr
  cases withdrawal.bridge with
  | some form => rfl
  | none =>
    rcases alike.read_eq with rfl | ⟨form, left, right⟩
    · rfl
    · have given : ∀ value, Address.read value = .ok form → ¬value.isNull = true := by
        intro value read
        exact mt Value.isNull_iff.mp (ne_null_of_read read)
      simp only [through, if_neg (given d left), if_neg (given e right), left, right]

/-- A withdrawal comes to one result under alike default bridges, a transfer looks at none. -/
theorem Record.Made.toCall_eq {kind : Kind} (intent : kind = .transfer ∨ kind = .withdrawal)
    {record : Record} (made : record.Made kind) {d e : Value} (alike : Address.Alike d e)
    (loaded other : Loaded) : (record.toCall d loaded).result = (record.toCall e other).result := by
  rcases intent with rfl | rfl
  · obtain ⟨transfer, valid, rfl⟩ := made.transfer
    rcases valid.token.native_or_erc20 with native | ⟨contract, held⟩
    · rw [Transfer.answers_native valid native d loaded, Transfer.answers_native valid native e other]
    · obtain ⟨recipient, spelled⟩ := valid.recipient
      rw [Transfer.answers_erc20 valid spelled held d loaded,
        Transfer.answers_erc20 valid spelled held e other]
  · obtain ⟨withdrawal, valid, rfl⟩ := made.withdrawal
    obtain ⟨recipient, spelled⟩ := valid.recipient
    rcases valid.token.native_or_erc20 with native | ⟨contract, held⟩
    · rw [Withdrawal.answers_native valid spelled native d loaded,
        Withdrawal.answers_native valid spelled native e other]
    · rw [Withdrawal.answers_erc20 valid spelled held d loaded,
        Withdrawal.answers_erc20 valid spelled held e other, Withdrawal.through_eq alike]

/-- Alike inputs make the same transfer or withdrawal or fail alike; what is made comes to the same
call message or failure under alike default bridges, and equal messages have equal renderings. -/
theorem spelling_irrelevant {kind : Kind} (intent : kind = .transfer ∨ kind = .withdrawal)
    {a b : Entries} (inputs : AlikeInputs a b) {d e : Value} (bridges : Address.Alike d e) :
    Record.make kind a = Record.make kind b ∧
    ∀ first second, Record.make kind a = .ok first → Record.make kind b = .ok second →
      first = second ∧ ∀ loaded other,
        (first.toCall d loaded).result = (second.toCall e other).result ∧
        ∀ m n, (first.toCall d loaded).result = .ok m → (second.toCall e other).result = .ok n →
          m.record.params = n.record.params ∧ m.record.rpc = n.record.rpc := by
  have made := inputs.make_eq intent
  refine ⟨made, ?_⟩
  intro first second left right
  have same : first = second := by
    rw [made, right] at left
    exact (Except.ok.inj left).symm
  subst same
  refine ⟨rfl, fun loaded other => ?_⟩
  have outcome := Record.Made.toCall_eq intent (.ofInputs _ left) bridges loaded other
  refine ⟨outcome, ?_⟩
  intro m n built rebuilt
  rw [built, rebuilt] at outcome
  cases outcome
  exact ⟨rfl, rfl⟩

/-- A withdrawal of a token through a default bridge, spelled in two ways, comes to one call. -/
theorem spelling_irrelevant_seven : ∃ record message,
    Record.make .withdrawal [("from", .str (Account.uniform 1).lower),
      ("to", .str (Account.uniform 2).form), ("amount", .int 7), ("token", .dict
        [("kind", .str "erc20"), ("address", .str (Account.uniform 0xab).upper)])] = .ok record ∧
    Record.make .withdrawal [("from", .str (Account.uniform 1).form),
      ("to", .str (Account.uniform 2).upper), ("amount", .int 7),
      ("token", .str (Account.uniform 0xab).form)] = .ok record ∧
    (record.toCall (.str (Account.uniform 0xcd).lower) []).result = .ok message ∧
    (record.toCall (.str (Account.uniform 0xcd).upper) []).result = .ok message := by
  let contract : Account := .uniform 0xab
  have other : contract ≠ .uniform 0 := by
    intro zero
    exact absurd (congrArg Subtype.val zero) (by decide)
  let withdrawal : Withdrawal := ⟨⟨0, none, none, none, []⟩, (Account.uniform 2).form, 7,
    .erc20 contract.form, none, (Account.uniform 1).form⟩
  let first : Entries := [("from", .str (Account.uniform 1).lower),
    ("to", .str (Account.uniform 2).form), ("amount", .int 7),
    ("token", .dict [("kind", .str "erc20"), ("address", .str contract.upper)])]
  let second : Entries := [("from", .str (Account.uniform 1).form),
    ("to", .str (Account.uniform 2).upper), ("amount", .int 7), ("token", .str contract.form)]
  have inputs : AlikeInputs first second := by
    refine ⟨?_, .none, ?_, ?_⟩
    · simp only [addressNames, List.forall_mem_cons]
      exact ⟨.some (.spelled (spells_form _) (spells_upper _)),
        .some (.spelled (spells_lower _) (spells_form _)), .none, .none, List.forall_mem_nil _⟩
    · exact .token (.table other rfl rfl (spells_upper contract)) (.text other (spells_form contract))
    · intro name others
      simp only [addressNames, List.mem_cons, List.not_mem_nil, or_false, not_or] at others
      obtain ⟨_, token, recipient, sender, _, _⟩ := others
      simp only [first, second, List.lookup_cons, beq_false_of_ne token, beq_false_of_ne recipient,
        beq_false_of_ne sender]
  have made : Record.make .withdrawal second = .ok withdrawal.record := by
    have read : ∀ account : Account, Schema.address (.str account.form) = .ok account.form :=
      fun account => address_of_isForm ⟨account, rfl⟩
    have upper := address_eq_ok_iff.mpr (spells_iff.mp (spells_upper (.uniform 2)))
    have token := Token.check_form (mt form_eq_zero_iff.mp other)
    simp [Record.make, Withdrawal.check, second, required, Schema.optional, find?, List.lookup,
      senderName, Name.spellings, read, upper, token]
    rfl
  obtain ⟨same, agreed⟩ := spelling_irrelevant (Or.inr rfl) inputs
    (.spelled (spells_lower (.uniform 0xcd)) (spells_upper (.uniform 0xcd)))
  obtain ⟨_, outcomes⟩ := agreed _ _ (same.trans made) made
  have valid := Withdrawal.valid_of_made (.ofInputs _ made)
  have fits : (7 : Int) < wordLimit := by
    rw [wordLimit_eq]
    norm_num
  have through : withdrawal.through (.str (Account.uniform 0xcd).lower)
      (tokenWithdrawalData (.uniform 2) contract 7) = .ok ⟨withdrawal.options, withdrawal.sender,
        some (Account.uniform 0xcd).form, 0, tokenWithdrawalData (.uniform 2) contract 7⟩ := by
    simp only [Withdrawal.through, spells_iff.mp (spells_lower _)]
    rfl
  have built := (Withdrawal.answers_erc20 valid rfl rfl (.str (Account.uniform 0xcd).lower) []).trans
    ((if_pos fits).trans through)
  exact ⟨_, _, same.trans made, made, built, (outcomes [] []).1.symm.trans built⟩

end LayerTwo
