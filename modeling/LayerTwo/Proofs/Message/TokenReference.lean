import LayerTwo.Proofs.Address.Checksum
import LayerTwo.Proofs.Message.Made
import LayerTwo.Proofs.Result
import LayerTwo.Proofs.Schema.Alike
import LayerTwo.Proofs.Value.Equality

/-! What a text stands for as a reference to a token. The zero address in any spelling is the native
currency and every other address a token contract, whether the text is resolved by itself or given as
the token of a transfer or withdrawal. As the address of a token contract the zero address is refused
in every spelling, whether the contract is made by itself or given as the token. -/
namespace LayerTwo

open Address Schema

variable {s form : String} {value : Value} {token : Token} {inputs entries : Entries}

/-! What texts refer to -/

/-- The text is 40 zeros, behind a mark if there is one. -/
def Address.Zeros (s : String) : Prop := ∃ mark ∈ marks, s.toList = mark ++ List.replicate 40 '0'

/-- A text refers to the native currency by the zero address, and to a contract by any other. -/
inductive Token.Refers (s : String) : Token → Prop where
  | native (zeros : Zeros s) : Refers s .native
  | erc20 {form : String} (accepted : read (.str s) = .ok form) (other : ¬Zeros s) :
      Refers s (.erc20 form)

theorem Address.zeros_iff : Zeros s ↔ read (.str s) = .ok zero := by
  constructor
  · rintro ⟨mark, member, text⟩
    have digits : ∀ c ∈ List.replicate 40 '0', IsHexDigit c :=
      List.forall_mem_replicate.mpr (Or.inr (Or.inl (by decide)))
    have small : ∀ c ∈ List.replicate 40 '0', c.isUpper = false :=
      List.forall_mem_replicate.mpr (Or.inr rfl)
    exact read_eq_ok_iff.mpr ⟨s, _, .uniform 0, rfl, ⟨⟨mark, member, text⟩, rfl, digits⟩,
      map_toLower_eq_zeros_iff.mpr rfl, Or.inl (Or.inl small), form_uniform_zero.symm⟩
  · intro accepted
    obtain ⟨_, letters, account, given, marked, lowered, _, same⟩ := read_eq_ok_iff.mp accepted
    cases given
    obtain rfl := form_eq_zero_iff.mp same.symm
    obtain rfl := map_toLower_eq_zeros_iff.mp lowered
    exact marked.text

theorem Address.zeros_iff_spells : Zeros s ↔ Spells (.str s) (.uniform 0) := by
  rw [zeros_iff, spells_iff, form_uniform_zero]

namespace Token

theorem ofAddress_refers (accepted : read (.str s) = .ok form) : Refers s (ofAddress form) := by
  unfold ofAddress
  split_ifs with same
  · exact .native (zeros_iff.mpr (same ▸ accepted))
  · refine .erc20 accepted ?_
    intro zeros
    rw [zeros_iff.mp zeros] at accepted
    exact same (Except.ok.inj accepted).symm

theorem Refers.erc20_iff : Refers s (.erc20 form) ↔ read (.str s) = .ok form ∧ form ≠ zero := by
  constructor
  · intro refers
    cases refers with
    | erc20 accepted other => exact ⟨accepted, fun same => other (zeros_iff.mpr (same ▸ accepted))⟩
  · rintro ⟨accepted, other⟩
    have refers := ofAddress_refers accepted
    rwa [ofAddress, if_neg other] at refers

theorem resolve_eq_ok_iff : resolve (.str s) = .ok token ↔ Refers s token := by
  change (read (.str s)).map ofAddress = .ok token ↔ _
  rw [Result.map_eq_ok_iff]
  constructor
  · rintro ⟨form, accepted, rfl⟩
    exact ofAddress_refers accepted
  · intro refers
    cases refers with
    | native zeros => exact ⟨zero, zeros_iff.mp zeros, if_pos rfl⟩
    | @erc20 form accepted other =>
      exact ⟨form, accepted, if_neg (Refers.erc20_iff.mp (.erc20 accepted other)).2⟩

theorem resolve_eq_error_iff {fault : Address.Fault} :
    resolve (.str s) = .error fault ↔ read (.str s) = .error fault :=
  Result.map_eq_error_iff

/-- A token is resolved to itself, by its address too if that is in checksum form. -/
theorem resolve_address (valid : token.Valid) : resolve (.str token.address) = .ok token := by
  rw [resolve_eq_ok_iff]
  cases valid with
  | native => exact .native ⟨['0', 'x'], by simp [marks], rfl⟩
  | @erc20 account other => exact Refers.erc20_iff.mpr ⟨read_form account, other⟩

/-- What is made as a token is the record of a valid one. -/
theorem exists_of_made {record : Record} (made : record.Made .native ∨ record.Made .erc20) :
    ∃ token : Token, token.Valid ∧ record = token.record := by
  rcases made with made | made
  · obtain ⟨inputs, made⟩ := made.inputs
    obtain ⟨token, checked, same⟩ := result_map_eq_ok made
    obtain ⟨_, _, rfl⟩ := Checked.map_eq_ok_iff.mp checked
    exact ⟨.native, .native, same⟩
  · obtain ⟨inputs, made⟩ := made.inputs
    obtain ⟨token, checked, same⟩ := result_map_eq_ok made
    exact ⟨token, valid_of_checkErc20 checked, same⟩

theorem view_record (token : Token) : token.record.view =
    .ok ⟨token.record, .token token.isNative (.str token.address)⟩ := by
  cases token <;> rfl

theorem isNative_iff (valid : token.Valid) : token.isNative = true ↔ token.address = zero := by
  cases valid with
  | native => exact iff_of_true rfl rfl
  | erc20 other => exact iff_of_false Bool.false_ne_true other

/-! Contracts by their address -/

theorem finds_of_zeros (zeros : Zeros s) :
    (contractAddress (.str s)).Finds ⟨[], .refused .nativeAsToken⟩ := by
  rw [contractAddress, address_eq_ok_iff.mpr (zeros_iff.mp zeros), Checked.andThen, if_pos rfl]
  exact Checked.finds_fault _

theorem finds_of_fault {fault : Address.Fault} (refused : read value = .error fault) :
    (contractAddress value).Finds ⟨[], .refused (.address fault)⟩ := by
  rw [contractAddress, address_eq_fault refused]
  exact (Checked.finds_fault _).andThen _

theorem contractAddress_of_refers (refers : Refers s (.erc20 form)) :
    contractAddress (.str s) = .ok form := by
  obtain ⟨accepted, other⟩ := Refers.erc20_iff.mp refers
  exact contractAddress_of_read accepted other

/-- Where a contract is asked for, its tag may be left out. -/
theorem checkErc20_eq (tagged : ∀ tag, inputs.lookup "kind" = some tag → tag = .str "erc20")
    (given : inputs.lookup "address" = some value) :
    checkErc20 inputs = ((contractAddress value).under (.key "address")).map .erc20 := by
  have kind : optional inputs "kind" () (constant "erc20") = .ok () := by
    cases held : inputs.lookup "kind" with
    | none => exact optional_of_lookup () held
    | some tag =>
      obtain rfl := tagged tag held
      exact optional_of_find? (find?_of_lookup _ held []) rfl
  rw [checkErc20, kind, required_given (find?_of_lookup value given [])]
  cases contractAddress value <;> rfl

/-! Token fields -/

theorem check_of_refers (refers : Refers s token) : Token.check (.str s) = .ok token := by
  simp only [check, resolve_eq_ok_iff.mpr refers]

theorem finds_text {fault : Address.Fault} (refused : read (.str s) = .error fault) :
    (Token.check (.str s)).Finds ⟨[], .refused (.address fault)⟩ := by
  simp only [check, resolve_eq_error_iff.mpr refused]
  exact Checked.finds_fault _

section Table

variable (tagged : entries.lookup "kind" = some (.str "erc20"))
  (given : entries.lookup "address" = some value)
include tagged given

theorem check_table : Token.check (.dict entries) =
    (((contractAddress value).under (.key "address")).map .erc20).under (.key "erc20") := by
  have contract := checkErc20_eq (fun tag held => Option.some.inj (held.symm.trans tagged)) given
  change checkTagged entries = _
  simp only [checkTagged, tagged, contract]

theorem check_table_of_contractAddress (accepted : contractAddress value = .ok form) :
    Token.check (.dict entries) = .ok (.erc20 form) := by
  rw [check_table tagged given, accepted]
  rfl

theorem finds_table {issue : Issue} (found : (contractAddress value).Finds issue) :
    (Token.check (.dict entries)).Finds
      { issue with path := .key "erc20" :: .key "address" :: issue.path } := by
  rw [check_table tagged given]
  exact ((found.under _).map _).under _

end Table

end Token

/-! The token of a message -/

/-- The inputs without what they give under a name. -/
def Entries.without (inputs : Entries) (name : String) : Entries := inputs.filter (·.1 != name)

/-- The inputs make what they make without a token, with this token in it. -/
structure Record.TakesToken (kind : Kind) (inputs : Entries) (token : Token) : Prop where
  made : Record.make kind inputs = (Record.make kind (inputs.without "token")).map
    (·.update [("token", token.record.toValue)])
  held : ∀ record, Record.make kind inputs = .ok record →
    record.get "token" = token.record.toValue

/-- The inputs make nothing, and the issue is reported. -/
def Record.Refuses (kind : Kind) (inputs : Entries) (issue : Issue) : Prop :=
  ∃ issues, Record.make kind inputs = .error (.invalid ⟨kind, issues⟩) ∧ issue ∈ issues

section Without

variable {α : Type} {name : Name} {check : Value → Checked α} {removed : String}

theorem Entries.lookup_without {key : String} (other : key ≠ removed) :
    (inputs.without removed).lookup key = inputs.lookup key := by
  rw [Entries.without, Value.lookup_filter_ne, if_neg other]

theorem required_without (others : removed ∉ name.spellings) :
    required (inputs.without removed) name check = required inputs name check :=
  required_of_same fun _ member => Entries.lookup_without (ne_of_mem_of_not_mem member others)

theorem optional_without (others : removed ∉ name.spellings) (default : α) :
    optional (inputs.without removed) name default check = optional inputs name default check :=
  optional_of_same (fun _ member => Entries.lookup_without (ne_of_mem_of_not_mem member others))
    default

theorem optional_without_self (default : α) :
    optional (inputs.without removed) removed default check = .ok default :=
  optional_of_lookup default ((Value.lookup_filter_ne ..).trans (if_pos rfl))

end Without

theorem GasOptions.check_without :
    GasOptions.check (inputs.without "token") = GasOptions.check inputs := by
  simp only [GasOptions.check]
  rw [optional_without (by decide), optional_without (by decide), optional_without (by decide),
    optional_without (by decide), optional_without (by decide)]

/-- The rule on fees does not look at what leaves the options as they are. -/
theorem GasOptions.checkFees_map {α : Type} {optionsOf : α → GasOptions} (f : α → α)
    (kept : ∀ m, optionsOf (f m) = optionsOf m) (message : Checked α) :
    GasOptions.checkFees optionsOf (message.map f) =
      (GasOptions.checkFees optionsOf message).map f := by
  cases message with
  | faulty issues => rfl
  | ok m =>
    simp only [checkFees, Checked.map, Checked.andThen, kept]
    split <;> rfl

def Transfer.withToken (token : Token) (transfer : Transfer) : Transfer :=
  { transfer with token := token }

def Withdrawal.withToken (token : Token) (withdrawal : Withdrawal) : Withdrawal :=
  { withdrawal with token := token }

theorem Transfer.record_withToken (transfer : Transfer) :
    (transfer.withToken token).record =
      transfer.record.update [("token", token.record.toValue)] := rfl

theorem Withdrawal.record_withToken (withdrawal : Withdrawal) :
    (withdrawal.withToken token).record =
      withdrawal.record.update [("token", token.record.toValue)] := rfl

/-- A check that changes nothing but the token puts it into what is made. -/
theorem Record.takesToken_of_map {kind : Kind} {α : Type} {plain : Checked α} {f : α → α}
    {toRecord : α → Record} (whole : make kind inputs = ((plain.map f).map toRecord).result kind)
    (rest : make kind (inputs.without "token") = (plain.map toRecord).result kind)
    (updated : ∀ m, toRecord (f m) = (toRecord m).update [("token", token.record.toValue)])
    (held : ∀ m, (toRecord (f m)).get "token" = token.record.toValue) :
    TakesToken kind inputs token := by
  constructor
  · rw [whole, rest]
    cases plain with
    | ok m => exact congrArg Except.ok (updated m)
    | faulty issues => rfl
  · intro record made
    rw [whole] at made
    cases plain with
    | ok m =>
      cases made
      exact held m
    | faulty issues => contradiction

section Given

variable (given : inputs.lookup "token" = some value)
include given

theorem Transfer.check_token (accepted : Token.check value = .ok token) :
    Transfer.check inputs = (Transfer.check (inputs.without "token")).map (withToken token) := by
  rw [Transfer.check, Transfer.check, GasOptions.check_without, required_without (by decide),
    required_without (by decide), optional_without_self, required_without (by decide),
    optional_of_find? (find?_of_lookup value given []) accepted,
    ← GasOptions.checkFees_map (withToken token) fun _ => rfl]
  -- each of the other fields is valid or not, and the issues are the same either way
  generalize GasOptions.check inputs = options, required inputs "to" Schema.address = recipient,
    required inputs "amount" natural = amount, required inputs senderName Schema.address = sender
  cases options <;> cases recipient <;> cases amount <;> cases sender <;> rfl

theorem Withdrawal.check_token (accepted : Token.check value = .ok token) :
    Withdrawal.check inputs = (Withdrawal.check (inputs.without "token")).map (withToken token) := by
  rw [Withdrawal.check, Withdrawal.check, GasOptions.check_without, required_without (by decide),
    required_without (by decide), optional_without_self, optional_without (by decide),
    required_without (by decide), optional_of_find? (find?_of_lookup value given []) accepted,
    ← GasOptions.checkFees_map (withToken token) fun _ => rfl]
  generalize GasOptions.check inputs = options, required inputs "to" Schema.address = recipient,
    required inputs "amount" natural = amount, required inputs senderName Schema.address = sender,
    optional inputs "bridge_address" none (nullable Schema.address) = bridge
  cases options <;> cases recipient <;> cases amount <;> cases bridge <;> cases sender <;> rfl

theorem Transfer.finds_token {issue : Issue} (found : (Token.check value).Finds issue) :
    (Transfer.check inputs).Finds { issue with path := .key "token" :: issue.path } := by
  have field : (optional inputs "token" .native Token.check).Finds _ :=
    finds_optional (find?_of_lookup value given []) found .native
  exact ((field.right _).left _).andThen _

theorem Withdrawal.finds_token {issue : Issue} (found : (Token.check value).Finds issue) :
    (Withdrawal.check inputs).Finds { issue with path := .key "token" :: issue.path } := by
  have field : (optional inputs "token" .native Token.check).Finds _ :=
    finds_optional (find?_of_lookup value given []) found .native
  exact (((field.right _).left _).left _).andThen _

namespace Record

variable {kind : Kind} (intent : kind = .transfer ∨ kind = .withdrawal)
include intent

theorem takesToken_of_check (accepted : Token.check value = .ok token) :
    TakesToken kind inputs token := by
  rcases intent with rfl | rfl
  · refine takesToken_of_map (f := Transfer.withToken token) ?_ rfl
      (fun transfer => transfer.record_withToken) fun _ => rfl
    rw [Record.make, Transfer.check_token given accepted]
  · refine takesToken_of_map (f := Withdrawal.withToken token) ?_ rfl
      (fun withdrawal => withdrawal.record_withToken) fun _ => rfl
    rw [Record.make, Withdrawal.check_token given accepted]

theorem refuses_of_finds {issue : Issue} (found : (Token.check value).Finds issue) :
    Refuses kind inputs { issue with path := .key "token" :: issue.path } := by
  rcases intent with rfl | rfl
  · obtain ⟨issues, checked, member⟩ := Transfer.finds_token given found
    exact ⟨issues, by rw [Record.make, checked]; rfl, member⟩
  · obtain ⟨issues, checked, member⟩ := Withdrawal.finds_token given found
    exact ⟨issues, by rw [Record.make, checked]; rfl, member⟩

end Record

end Given

namespace Token

section Contract

variable (tagged : ∀ tag, inputs.lookup "kind" = some tag → tag = .str "erc20")
  (given : inputs.lookup "address" = some value)
include tagged given

theorem make_of_contractAddress (accepted : contractAddress value = .ok form) :
    Record.make .erc20 inputs = .ok (Token.erc20 form).record := by
  rw [Record.make, checkErc20_eq tagged given, accepted]
  rfl

theorem refuses_of_contractAddress {issue : Issue} (found : (contractAddress value).Finds issue) :
    Record.Refuses .erc20 inputs { issue with path := .key "address" :: issue.path } := by
  obtain ⟨issues, checked, member⟩ := (found.under (.key "address")).map Token.erc20
  refine ⟨issues, ?_, member⟩
  rw [Record.make, checkErc20_eq tagged given, checked]
  rfl

end Contract

/-- A text is resolved exactly if it is an address, to the native currency exactly if it spells the
zero address; tokens are resolved to themselves, by their address too; the token of a transfer or
withdrawal is what its text is resolved to; the address of a contract is any but the zero address. -/
theorem references_agree :
    (∀ s fault, resolve (.str s) = .error fault ↔ read (.str s) = .error fault) ∧
    (∀ s token, resolve (.str s) = .ok token ↔ Refers s token) ∧
    (∀ s, Zeros s ↔ Spells (.str s) (.uniform 0)) ∧
    (∀ s form, Refers s (.erc20 form) →
      Record.make .erc20 [("address", .str form)] = .ok (Token.erc20 form).record) ∧
    (∀ value token, resolve value = .ok token → resolve token.record.toValue = .ok token) ∧
    (∀ record : Record, record.Made .native ∨ record.Made .erc20 → ∃ token : Token,
      record = token.record ∧
      record.view = .ok ⟨record, .token token.isNative (.str token.address)⟩ ∧
      resolve (.str token.address) = .ok token ∧
      (token.isNative = true ↔ token.address = zero)) ∧
    (∀ kind, kind = .transfer ∨ kind = .withdrawal → ∀ inputs s,
      inputs.lookup "token" = some (.str s) →
      (∀ token, Refers s token → Record.TakesToken kind inputs token) ∧
      ∀ fault, read (.str s) = .error fault →
        Record.Refuses kind inputs ⟨[.key "token"], .refused (.address fault)⟩) ∧
    (∀ inputs s, inputs.lookup "address" = some (.str s) →
      (∀ tag, inputs.lookup "kind" = some tag → tag = .str "erc20") →
      (∀ form, Refers s (.erc20 form) →
        Record.make .erc20 inputs = .ok (Token.erc20 form).record) ∧
      (Zeros s → Record.Refuses .erc20 inputs ⟨[.key "address"], .refused .nativeAsToken⟩) ∧
      ∀ fault, read (.str s) = .error fault →
        Record.Refuses .erc20 inputs ⟨[.key "address"], .refused (.address fault)⟩) ∧
    ∀ kind, kind = .transfer ∨ kind = .withdrawal → ∀ inputs entries s,
      inputs.lookup "token" = some (.dict entries) →
      entries.lookup "kind" = some (.str "erc20") → entries.lookup "address" = some (.str s) →
      (∀ form, Refers s (.erc20 form) → Record.TakesToken kind inputs (.erc20 form)) ∧
      (Zeros s → Record.Refuses kind inputs
        ⟨[.key "token", .key "erc20", .key "address"], .refused .nativeAsToken⟩) ∧
      ∀ fault, read (.str s) = .error fault → Record.Refuses kind inputs
        ⟨[.key "token", .key "erc20", .key "address"], .refused (.address fault)⟩ := by
  refine ⟨fun s fault => resolve_eq_error_iff, fun s token => resolve_eq_ok_iff,
    fun s => zeros_iff_spells, ?_, ?_, ?_, ?_, ?_, ?_⟩
  · intro s form refers
    obtain ⟨accepted, other⟩ := Refers.erc20_iff.mp refers
    obtain ⟨account, rfl⟩ := read_eq_ok accepted
    exact make_of_contractAddress (fun _ => by simp [List.lookup]) rfl
      (contractAddress_of_read (read_form account) other)
  · intro value token _
    cases token <;> rfl
  · intro record made
    obtain ⟨token, valid, rfl⟩ := exists_of_made made
    exact ⟨token, rfl, view_record token, resolve_address valid, isNative_iff valid⟩
  · intro kind intent inputs s given
    exact ⟨fun token refers => Record.takesToken_of_check given intent (check_of_refers refers),
      fun fault refused => Record.refuses_of_finds given intent (finds_text refused)⟩
  · intro inputs s given tagged
    exact ⟨fun form refers => make_of_contractAddress tagged given (contractAddress_of_refers refers),
      fun zeros => refuses_of_contractAddress tagged given (finds_of_zeros zeros),
      fun fault refused => refuses_of_contractAddress tagged given (finds_of_fault refused)⟩
  · intro kind intent inputs entries s given tagged held
    have refuses {issue : Issue} (found : (contractAddress (.str s)).Finds issue) :=
      Record.refuses_of_finds given intent (finds_table tagged held found)
    refine ⟨?_, fun zeros => refuses (finds_of_zeros zeros),
      fun fault refused => refuses (finds_of_fault refused)⟩
    intro form refers
    have accepted := contractAddress_of_refers refers
    exact Record.takesToken_of_check given intent (check_table_of_contractAddress tagged held accepted)

/-- Zeros behind a capital mark. -/
def zeroText : String := "0X0000000000000000000000000000000000000000"

/-- They are withdrawn as the native currency, and are no contract. -/
theorem references_agree_zeros :
    (∃ record, Record.make .withdrawal [("to", .str (Account.uniform 2).form), ("amount", .int 7),
        ("token", .str zeroText), ("from", .str (Account.uniform 1).form)] = .ok record ∧
      record.get "token" = Token.native.record.toValue) ∧
    Record.Refuses .withdrawal [("to", .str (Account.uniform 2).form), ("amount", .int 7),
        ("token", .dict [("kind", .str "erc20"), ("address", .str zeroText)]),
        ("from", .str (Account.uniform 1).form)]
      ⟨[.key "token", .key "erc20", .key "address"], .refused .nativeAsToken⟩ := by
  obtain ⟨_, _, _, _, _, _, text, _, table⟩ := references_agree
  have zeros : Zeros zeroText := ⟨['0', 'X'], by simp [marks], rfl⟩
  refine ⟨?_, (table .withdrawal (Or.inr rfl) _ _ zeroText rfl rfl rfl).2.1 zeros⟩
  let withdrawal : Withdrawal := ⟨⟨0, none, none, none, []⟩, (Account.uniform 2).form, 7, .native,
    none, (Account.uniform 1).form⟩
  let inputs : Entries := [("to", .str (Account.uniform 2).form), ("amount", .int 7),
    ("token", .str zeroText), ("from", .str (Account.uniform 1).form)]
  have plain : Record.make .withdrawal (inputs.without "token") = .ok withdrawal.record := by
    have rest : inputs.without "token" = [("to", .str (Account.uniform 2).form),
      ("amount", .int 7), ("from", .str (Account.uniform 1).form)] := rfl
    have read : ∀ account : Account, Schema.address (.str account.form) = .ok account.form :=
      fun account => address_of_isForm ⟨account, rfl⟩
    simp [rest, Record.make, Withdrawal.check, required, Schema.optional, find?, List.lookup,
      senderName, Name.spellings, read]
    rfl
  have takes := (text .withdrawal (Or.inr rfl) inputs zeroText rfl).1 .native (.native zeros)
  have whole := takes.made
  rw [plain] at whole
  exact ⟨_, whole, takes.held _ whole⟩

end Token

end LayerTwo
