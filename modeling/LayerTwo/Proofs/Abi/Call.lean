import LayerTwo.Abi.Contract
import LayerTwo.Proofs.Abi.Word
import LayerTwo.Proofs.Address.Form
import LayerTwo.Proofs.Operation

/-! The calls that messages are built from. Their parameters are addresses and numbers only, so the
call data is the selector and one word for each argument; packing fails exactly when a number does
not fit a word. -/
namespace LayerTwo.Abi

open Address Operation

/-- The first four bytes of the hash of a signature. -/
def selectorOf (signature : String) : List UInt8 := (Keccak.digestText signature.toList).take 4

/-- The word of an address: twelve zeros in front of its bytes. -/
def accountWord (account : Account) : List UInt8 := List.replicate 12 0 ++ account.val

theorem length_selectorOf (signature : String) : (selectorOf signature).length = 4 := by
  simp [selectorOf, Keccak.digestText, Keccak.length_digest]

theorem length_accountWord (account : Account) : (accountWord account).length = 32 := by
  simp [accountWord, account.property]

theorem accountWord_injective {a b : Account} (same : accountWord a = accountWord b) : a = b :=
  Subtype.ext (List.append_cancel_left same)

/-! Packing and loading -/

theorem answers_load (interface : Interface) : Answers interface.load (.ok ()) := by
  refine answers_get_bind fun loaded => ?_
  split_ifs
  · exact answers_pure ()
  · exact (answers_log _ _ _).bind (answers_set _)

theorem named_name (interface : Interface) :
    Interface.named (.str interface.name) = .ok interface := by
  cases interface <;> rfl

/-- What is loaded does not matter to the outcome of a call. -/
theorem answers_packed {interface : Interface} {function arguments : Value} {data : List UInt8}
    (packed : interface.pack function arguments = .ok data) :
    Answers (encodeCall (.str interface.name) function arguments) (.ok data) := by
  simp only [encodeCall, named_name, packed]
  exact (answers_load interface).bind (answers_pure data)

theorem answers_unpacked {interface : Interface} {function arguments : Value} {fault : PackFault}
    (refused : interface.pack function arguments = .error fault) :
    Answers (encodeCall (.str interface.name) function arguments)
      (.error (raised (.encoding ⟨function, .pack fault⟩))) := by
  simp only [encodeCall, named_name, refused]
  exact (answers_load interface).bind (answers_logged _ _)

/-- Without byte strings among its types an entry packs whatever fits them. -/
theorem pack_of_static {interface : Interface} {identifier : String} (entry : Entry)
    (found : interface.find? identifier = some entry)
    (named : interface.named? identifier = some entry)
    (static : AbiType.bytes ∉ entry.types) (values : List Value) :
    interface.pack (.str identifier) (.list values) = entry.pack values := by
  have ascii : entry.hasForeign values = false := by
    rw [Entry.hasForeign, Bool.and_eq_false_iff]
    refine Or.inr (List.any_eq_false.mpr ?_)
    rintro ⟨type, value⟩ member
    have other : type ≠ .bytes := by
      rintro rfl
      exact static (List.of_mem_zip member).1
    cases type <;> simp [isForeign] at other ⊢
  simp only [Interface.pack, itemsOf?, named, Option.any_some, ascii, found]
  rfl

theorem pack_of_arguments {entry : Entry} {values : List Value} (arguments : List Argument)
    (nonempty : values ≠ []) (given : argumentsOf? entry.types values = some arguments)
    (marked : ∀ pair ∈ entry.types.zip values, isChecksummed pair.1 pair.2 = true) :
    entry.pack values = .ok (entry.selector ++ encodeArguments arguments) := by
  have some : values.isEmpty = false := by simpa using nonempty
  simp only [Entry.pack, some, Bool.false_and, Bool.false_eq_true, if_false, given]
  exact if_pos (List.all_eq_true.mpr marked)

theorem pack_of_mismatch {entry : Entry} {values : List Value} (nonempty : values ≠ [])
    (unfit : argumentsOf? entry.types values = none) :
    entry.pack values = .error .mismatch := by
  have some : values.isEmpty = false := by simpa using nonempty
  simp only [Entry.pack, some, Bool.false_and, Bool.false_eq_true, if_false, unfit]

theorem ofValue?_account (account : Account) :
    Argument.ofValue? .address (.str account.form) = some (.account account.val) := by
  simp only [Argument.ofValue?, addressBytes?_form, Option.map_some]

theorem ofValue?_number {n : Int} (nonneg : 0 ≤ n) : Argument.ofValue? .uint256 (.int n) =
    if n < wordLimit then some (.number n.toNat) else none := by
  simp only [Argument.ofValue?, nonneg, true_and]

theorem isChecksummed_number (n : Int) : isChecksummed .uint256 (.int n) = true := rfl

/-! The three calls -/

def transferEntry : Entry := .function "transfer" [⟨"to", .address⟩, ⟨"amount", .uint256⟩]
  [⟨"", .bool⟩] .nonpayable

def transferData (recipient : Account) (amount : Nat) : List UInt8 :=
  selectorOf "transfer(address,uint256)" ++ accountWord recipient ++ word amount

theorem length_transferData (recipient : Account) (amount : Nat) :
    (transferData recipient amount).length = 68 := by
  simp only [transferData, List.length_append, length_selectorOf, length_accountWord, length_word]

theorem transferData_injective {recipient other : Account} {m n : Nat} (left : m < wordLimit)
    (right : n < wordLimit) (same : transferData recipient m = transferData other n) :
    recipient = other ∧ m = n := by
  obtain ⟨front, words⟩ := List.append_inj' same (by rw [length_word, length_word])
  exact ⟨accountWord_injective (List.append_cancel_left front), word_injective left right words⟩

theorem pack_transfer (recipient : Account) {amount : Int} (nonneg : 0 ≤ amount) :
    Interface.erc20.pack (.str "transfer") (.list [.str recipient.form, .int amount]) =
      if amount < wordLimit then .ok (transferData recipient amount.toNat)
      else .error .mismatch := by
  have types : transferEntry.types = [.address, .uint256] := rfl
  rw [pack_of_static transferEntry rfl rfl (by decide)]
  split_ifs with fits
  · rw [pack_of_arguments [.account recipient.val, .number amount.toNat]
      (List.cons_ne_nil _ _)]
    · simp only [encodeArguments, heads, Argument.head, Argument.tail, List.flatMap_cons,
        List.flatMap_nil, List.append_nil, List.append_assoc, accountWord, transferData]
      rfl
    · simp only [types, argumentsOf?, ofValue?_account, ofValue?_number nonneg, if_pos fits]
    · simp [types, isChecksummed_form, isChecksummed_number]
  · apply pack_of_mismatch (List.cons_ne_nil _ _)
    simp only [types, argumentsOf?, ofValue?_account, ofValue?_number nonneg, if_neg fits]

def nativeWithdrawalEntry : Entry := .function "withdraw" [⟨"_l1Receiver", .address⟩] [] .payable

def nativeWithdrawalData (recipient : Account) : List UInt8 :=
  selectorOf "withdraw(address)" ++ accountWord recipient

theorem length_nativeWithdrawalData (recipient : Account) :
    (nativeWithdrawalData recipient).length = 36 := by
  simp only [nativeWithdrawalData, List.length_append, length_selectorOf, length_accountWord]

theorem nativeWithdrawalData_injective {recipient other : Account}
    (same : nativeWithdrawalData recipient = nativeWithdrawalData other) : recipient = other :=
  accountWord_injective (List.append_cancel_left same)

theorem pack_nativeWithdrawal (recipient : Account) :
    Interface.ethToken.pack (.str "withdraw") (.list [.str recipient.form]) =
      .ok (nativeWithdrawalData recipient) := by
  have types : nativeWithdrawalEntry.types = [.address] := rfl
  rw [pack_of_static nativeWithdrawalEntry rfl rfl (by decide),
    pack_of_arguments [.account recipient.val] (List.cons_ne_nil _ _)]
  · simp only [encodeArguments, heads, Argument.head, Argument.tail, List.flatMap_cons,
      List.flatMap_nil, List.append_nil, accountWord, nativeWithdrawalData]
    rfl
  · simp only [types, argumentsOf?, ofValue?_account]
  · simp [types, isChecksummed_form]

def tokenWithdrawalEntry : Entry := .function "withdraw" [⟨"_l1Receiver", .address⟩,
  ⟨"_l2Token", .address⟩, ⟨"_amount", .uint256⟩] [] .nonpayable

def tokenWithdrawalData (recipient token : Account) (amount : Nat) : List UInt8 :=
  selectorOf "withdraw(address,address,uint256)" ++ accountWord recipient ++ accountWord token ++
    word amount

theorem length_tokenWithdrawalData (recipient token : Account) (amount : Nat) :
    (tokenWithdrawalData recipient token amount).length = 100 := by
  simp only [tokenWithdrawalData, List.length_append, length_selectorOf, length_accountWord,
    length_word]

theorem tokenWithdrawalData_injective {recipient other token contract : Account} {m n : Nat}
    (left : m < wordLimit) (right : n < wordLimit)
    (same : tokenWithdrawalData recipient token m = tokenWithdrawalData other contract n) :
    recipient = other ∧ token = contract ∧ m = n := by
  obtain ⟨front, words⟩ := List.append_inj' same (by rw [length_word, length_word])
  obtain ⟨front, tokens⟩ :=
    List.append_inj' front (by rw [length_accountWord, length_accountWord])
  exact ⟨accountWord_injective (List.append_cancel_left front), accountWord_injective tokens,
    word_injective left right words⟩

theorem pack_tokenWithdrawal (recipient token : Account) {amount : Int} (nonneg : 0 ≤ amount) :
    Interface.l2Bridge.pack (.str "withdraw")
        (.list [.str recipient.form, .str token.form, .int amount]) =
      if amount < wordLimit then
        .ok (tokenWithdrawalData recipient token amount.toNat)
      else .error .mismatch := by
  have types : tokenWithdrawalEntry.types = [.address, .address, .uint256] := rfl
  rw [pack_of_static tokenWithdrawalEntry rfl rfl (by decide)]
  split_ifs with fits
  · rw [pack_of_arguments
      [.account recipient.val, .account token.val, .number amount.toNat]
      (List.cons_ne_nil _ _)]
    · simp only [encodeArguments, heads, Argument.head, Argument.tail, List.flatMap_cons,
        List.flatMap_nil, List.append_nil, List.append_assoc, accountWord, tokenWithdrawalData]
      rfl
    · simp only [types, argumentsOf?, ofValue?_account, ofValue?_number nonneg, if_pos fits]
    · simp [types, isChecksummed_form, isChecksummed_number]
  · apply pack_of_mismatch (List.cons_ne_nil _ _)
    simp only [types, argumentsOf?, ofValue?_account, ofValue?_number nonneg, if_neg fits]

end LayerTwo.Abi
