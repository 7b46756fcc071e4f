import LayerTwo.Proofs.Abi.Call
import LayerTwo.Proofs.Abi.Decoding
import LayerTwo.Proofs.Value.Shown

/-! Which calls are encoded. A call asks for an entry of an interface, by its name or its signature,
with one value for each parameter that stands for an argument of its type. What is asked for in this
way is always encoded, to call data that read back as these arguments; any other call is refused. -/
namespace LayerTwo.Abi

open Address Operation

/-- The value stands for the argument. A number has to fit a word; an account is given by its bytes
or by its checksum form; a byte string is given by itself or by its digits after a mark. -/
inductive Denotes : AbiType → Value → Argument → Prop where
  | number {n : Nat} (fits : n < 2 ^ 256) : Denotes .uint256 (.int n) (.number n)
  | truth (b : Bool) : Denotes .bool (.bool b) (.number (if b then 1 else 0))
  | form (account : Account) : Denotes .address (.str account.form) (.account account.val)
  | account (account : Account) : Denotes .address (.bytes account.val) (.account account.val)
  | data (octets : List UInt8) : Denotes .bytes (.bytes octets) (.data octets)
  | digits {s : String} {digits : List Char} {octets : List UInt8}
      (marked : s.toList = '0' :: 'x' :: digits)
      (spelled : digits.map Char.toLower = Hex.ofBytes octets) :
      Denotes .bytes (.str s) (.data octets)

/-- There are as many values as types, and each stands for its argument. -/
inductive DenoteAll : List AbiType → List Value → List Argument → Prop where
  | nil : DenoteAll [] [] []
  | cons {type : AbiType} {value : Value} {argument : Argument} {types : List AbiType}
      {values : List Value} {arguments : List Argument} (first : Denotes type value argument)
      (rest : DenoteAll types values arguments) :
      DenoteAll (type :: types) (value :: values) (argument :: arguments)

/-- The call is one of the entry with the arguments. -/
structure Asks (name function given : Value) (entry : Entry) (arguments : List Argument) :
    Prop where
  interface : ∃ interface : Interface, name = .str interface.name ∧ entry ∈ interface.entries
  function : function = .str entry.name ∨ function = .str entry.signature
  arguments : ∃ values, itemsOf? given = some values ∧ DenoteAll entry.types values arguments

/-! Arguments -/

theorem Denotes.of {type : AbiType} {value : Value} {argument : Argument}
    (denotes : Denotes type value argument) : argument.Of type := by
  cases denotes with
  | number fits => exact .number fits
  | truth b => exact .truth (by cases b <;> decide)
  | form account | account account => exact .account account.property
  | data octets | digits => exact .data _

theorem DenoteAll.of {types : List AbiType} {values : List Value} {arguments : List Argument}
    (denote : DenoteAll types values arguments) :
    List.Forall₂ (fun type argument => argument.Of type) types arguments := by
  induction denote with
  | nil => exact .nil
  | cons first _ ih => exact .cons first.of ih

/-- A text in checksum form is the form of the account that its digits spell. -/
theorem exists_form {s : String} {octets : List UInt8} (read : addressBytes? s = some octets)
    (checksummed : isChecksummed .address (.str s) = true) :
    ∃ account : Account, s = account.form ∧ octets = account.val := by
  unfold addressBytes? at read
  dsimp only at read
  split_ifs at read with length
  have lowered := Hex.toBytes?_eq_some_iff.mp read
  have width := congrArg List.length lowered
  rw [List.length_map, length, Hex.length_ofBytes] at width
  let account : Account := ⟨octets, by omega⟩
  have same : checksum (body s.toList) = checksum account.digits := checksum_of_map_toLower lowered
  have written : s.toList = checksum (body s.toList) := beq_iff_eq.mp checksummed
  refine ⟨account, ?_, rfl⟩
  rw [Account.form, ← same, ← written, String.ofList_toList]

theorem markedBytes?_eq_some_iff {s : String} {octets : List UInt8} :
    markedBytes? s = some octets ↔ ∃ digits, s.toList = '0' :: 'x' :: digits ∧
      digits.map Char.toLower = Hex.ofBytes octets := by
  unfold markedBytes?
  split
  · rename_i digits marked
    rw [Hex.toBytes?_eq_some_iff]
    constructor
    · intro spelled
      exact ⟨digits, marked, spelled⟩
    · rintro ⟨others, same, spelled⟩
      rw [marked] at same
      cases same
      exact spelled
  · rename_i unmarked
    constructor
    · intro impossible
      contradiction
    · rintro ⟨digits, marked, _⟩
      exact absurd marked (unmarked digits)

/-- A value fits a type, and is in checksum form where it has to be, exactly when it stands for
what it is encoded as. -/
theorem ofValue?_iff_denotes {type : AbiType} {value : Value} {argument : Argument} :
    Argument.ofValue? type value = some argument ∧ isChecksummed type value = true ↔
      Denotes type value argument := by
  constructor
  · rintro ⟨read, checksummed⟩
    unfold Argument.ofValue? at read
    split at read
    · rename_i n
      split_ifs at read with fits
      cases read
      obtain ⟨m, rfl⟩ := Int.eq_ofNat_of_zero_le fits.1
      rw [wordLimit_eq] at fits
      exact .number (by exact_mod_cast fits.2)
    · cases read
      exact .truth _
    · obtain ⟨octets, found, rfl⟩ := Option.map_eq_some_iff.mp read
      obtain ⟨account, rfl, rfl⟩ := exists_form found checksummed
      exact .form account
    · split_ifs at read with length
      cases read
      exact .account ⟨_, length⟩
    · cases read
      exact .data _
    · obtain ⟨octets, found, rfl⟩ := Option.map_eq_some_iff.mp read
      obtain ⟨digits, marked, spelled⟩ := markedBytes?_eq_some_iff.mp found
      exact .digits marked spelled
    · contradiction
  · intro denotes
    cases denotes with
    | @number n fits =>
      have small : (n : Int) < wordLimit := by
        rw [wordLimit_eq]
        exact_mod_cast fits
      refine ⟨?_, rfl⟩
      rw [ofValue?_number (Int.natCast_nonneg n), if_pos small]
      rfl
    | truth b => exact ⟨rfl, rfl⟩
    | form account => exact ⟨ofValue?_account account, isChecksummed_form account⟩
    | account account => exact ⟨if_pos account.property, rfl⟩
    | data octets => exact ⟨rfl, rfl⟩
    | digits marked spelled =>
      have read := markedBytes?_eq_some_iff.mpr ⟨_, marked, spelled⟩
      exact ⟨by rw [Argument.ofValue?, read, Option.map_some], rfl⟩

theorem argumentsOf?_iff_denoteAll {types : List AbiType} {values : List Value}
    {arguments : List Argument} :
    argumentsOf? types values = some arguments ∧
        ((types.zip values).all fun (type, value) => isChecksummed type value) = true ↔
      DenoteAll types values arguments := by
  constructor
  · rintro ⟨read, checksummed⟩
    fun_induction argumentsOf? types values generalizing arguments with
    | case1 =>
      cases read
      exact .nil
    | case2 type types value values argument others first rest ih =>
      cases read
      simp only [List.zip_cons_cons, List.all_cons, Bool.and_eq_true] at checksummed
      exact .cons (ofValue?_iff_denotes.mp ⟨rest, checksummed.1⟩) (ih first checksummed.2)
    | case3 => contradiction
    | case4 => contradiction
  · intro denote
    induction denote with
    | nil => exact ⟨rfl, rfl⟩
    | cons first _ ih =>
      obtain ⟨read, checksummed⟩ := ofValue?_iff_denotes.mpr first
      obtain ⟨othersRead, othersChecksummed⟩ := ih
      refine ⟨by simp only [argumentsOf?, read, othersRead], ?_⟩
      simp only [List.zip_cons_cons, List.all_cons, checksummed, othersChecksummed, Bool.and_true]

theorem toNat_le_of_isDigit {c : Char} (digit : Hex.isDigit c = true) : c.toNat ≤ 0x7f := by
  obtain ⟨n, found⟩ := Option.isSome_iff_exists.mp digit
  by_contra beyond
  simp only [Hex.digitValue?] at found
  rw [if_neg (by omega), if_neg (by omega), if_neg (by omega)] at found
  contradiction

/-- Digits and the mark are ASCII, so a text that stands for a byte string holds nothing else. -/
theorem Denotes.not_isForeign {type : AbiType} {value : Value} {argument : Argument}
    (denotes : Denotes type value argument) : isForeign type value = false := by
  cases denotes with
  | digits marked spelled =>
    rename_i s digits octets
    simp only [isForeign, marked, List.any_eq_false, decide_eq_true_eq, not_lt]
    have valid : digits.all Hex.isDigit = true := by
      rw [← Hex.all_isDigit_map_toLower, spelled, Hex.all_isDigit_ofBytes]
    intro c member
    rcases List.mem_cons.mp member with rfl | member
    · decide
    rcases List.mem_cons.mp member with rfl | member
    · decide
    exact toNat_le_of_isDigit (List.all_eq_true.mp valid c member)
  | _ => rfl

theorem DenoteAll.not_any_isForeign {types : List AbiType} {values : List Value}
    {arguments : List Argument} (denote : DenoteAll types values arguments) :
    ((types.zip values).any fun (type, value) => isForeign type value) = false := by
  induction denote with
  | nil => rfl
  | cons first _ ih =>
    simp only [List.zip_cons_cons, List.any_cons, first.not_isForeign, ih, Bool.or_false]

theorem DenoteAll.isEmpty_eq {types : List AbiType} {values : List Value}
    {arguments : List Argument} (denote : DenoteAll types values arguments) :
    values.isEmpty = types.isEmpty := by
  cases denote with
  | nil => rfl
  | cons => rfl

/-! Entries -/

/-- No entry answers to the name or the signature of another one. -/
theorem found_of_mem (interface : Interface) : ∀ entry ∈ interface.entries,
    (interface.find? entry.name = some entry ∧ interface.named? entry.name = some entry) ∧
      interface.find? entry.signature = some entry ∧
      interface.named? entry.signature = some entry := by
  cases interface <;> decide +kernel

theorem find?_eq_some {interface : Interface} {identifier : String} {entry : Entry}
    (found : interface.find? identifier = some entry) :
    entry ∈ interface.entries ∧ (identifier = entry.name ∨ identifier = entry.signature) := by
  refine ⟨List.mem_of_find?_eq_some found, ?_⟩
  have answers := List.find?_some found
  simp only [Bool.or_eq_true, beq_iff_eq] at answers
  exact answers.imp Eq.symm Eq.symm

theorem Entry.pack_eq_ok_iff {entry : Entry} {values : List Value} {data : List UInt8} :
    entry.pack values = .ok data ↔ ∃ arguments, DenoteAll entry.types values arguments ∧
      data = entry.selector ++ encodeArguments arguments := by
  constructor
  · intro packed
    unfold Entry.pack at packed
    split at packed
    · contradiction
    split at packed
    · contradiction
    · rename_i arguments given
      split_ifs at packed with marked
      cases packed
      exact ⟨arguments, argumentsOf?_iff_denoteAll.mp ⟨given, marked⟩, rfl⟩
  · rintro ⟨arguments, denote, rfl⟩
    obtain ⟨given, marked⟩ := argumentsOf?_iff_denoteAll.mpr denote
    simp only [Entry.pack, denote.isEmpty_eq, Bool.and_not_self, Bool.false_eq_true, if_false,
      given, marked, if_true]

theorem Interface.pack_eq_ok {interface : Interface} {function given : Value} {data : List UInt8}
    (packed : interface.pack function given = .ok data) :
    ∃ entry arguments, Asks (.str interface.name) function given entry arguments := by
  unfold Interface.pack at packed
  split at packed
  · contradiction
  rename_i values items
  split at packed
  · rename_i identifier
    split_ifs at packed
    split at packed
    · rename_i entry found
      obtain ⟨member, named⟩ := find?_eq_some found
      obtain ⟨arguments, denote, _⟩ := Entry.pack_eq_ok_iff.mp packed
      refine ⟨entry, arguments, ⟨interface, rfl, member⟩, ?_, ⟨values, items, denote⟩⟩
      exact named.imp (congrArg Value.str) (congrArg Value.str)
    · contradiction
  · contradiction

theorem named_eq_ok {name : Value} {interface : Interface}
    (named : Interface.named name = .ok interface) : name = .str interface.name := by
  unfold Interface.named at named
  split at named
  · contradiction
  · split at named
    · rename_i s _
      split at named
      · rename_i found known
        cases named
        have same := List.find?_some known
        rw [beq_iff_eq.mp same]
      · contradiction
    · contradiction

/-- A call that is asked for is packed by the interface that has the entry. -/
theorem Asks.packed {name function given : Value} {entry : Entry} {arguments : List Argument}
    (asks : Asks name function given entry arguments) : ∃ interface : Interface,
      name = .str interface.name ∧ interface.pack function given =
        .ok (entry.selector ++ encodeArguments arguments) := by
  obtain ⟨⟨interface, rfl, member⟩, function, values, items, denote⟩ := asks
  refine ⟨interface, rfl, ?_⟩
  have packed := Entry.pack_eq_ok_iff.mpr ⟨arguments, denote, rfl⟩
  have ascii : entry.hasForeign values = false := by
    rw [Entry.hasForeign, denote.not_any_isForeign, Bool.and_false]
  obtain ⟨⟨byName, named⟩, bySignature, signed⟩ := found_of_mem interface entry member
  rcases function with rfl | rfl
  · simp only [Interface.pack, items, named, byName, Option.any_some, ascii, Bool.false_eq_true,
      if_false, packed]
  · simp only [Interface.pack, items, signed, bySignature, Option.any_some, ascii,
      Bool.false_eq_true, if_false, packed]

/-! Calls that are refused -/

/-- What the error of a refused call shows: the interface if there is none of that name, or the
function. -/
def blamed (name function : Value) : Value :=
  match Interface.named name with
  | .ok _ => function
  | .error _ => name

theorem isSome_message?_load_iff {name function : Value} {fault : LoadFault}
    (unnamed : Interface.named name = .error fault) :
    (EncodingError.message? ⟨function, .load name fault⟩).isSome = true ↔ name.Short := by
  rw [EncodingError.message?, Value.isSome_both, Bool.and_eq_true, Value.isSome_text?_iff]
  refine and_iff_left_of_imp fun short => ?_
  unfold Interface.named at unnamed
  split at unnamed
  · cases unnamed
    rfl
  · have unknown : LoadFault.unknown name = fault := by
      split at unnamed
      · split at unnamed <;> cases unnamed
        rfl
      · cases unnamed
        rfl
    rw [← unknown, LoadFault.message?, Value.isSome_return, Value.isSome_text?_iff]
    exact short

theorem isSome_message?_pack_iff {function : Value} {fault : PackFault} :
    (EncodingError.message? ⟨function, .pack fault⟩).isSome = true ↔ function.Short := by
  rw [EncodingError.message?, Value.isSome_return, Value.isSome_text?_iff]

/-- A call that is not encoded is refused for its interface or for its packing. -/
theorem exists_fault_of_unasked {name function given : Value}
    (unasked : ¬∃ entry arguments, Asks name function given entry arguments) :
    ∃ fault, Answers (encodeCall name function given)
        (.error (raised (.encoding ⟨function, fault⟩))) ∧
      ((EncodingError.message? ⟨function, fault⟩).isSome = true ↔ (blamed name function).Short) := by
  cases named : Interface.named name with
  | error fault =>
    refine ⟨.load name fault, ?_, ?_⟩
    · simp only [encodeCall, named]
      exact answers_logged _ _
    · rw [isSome_message?_load_iff named, blamed, named]
  | ok interface =>
    have known := named_eq_ok named
    cases packed : interface.pack function given with
    | error fault =>
      refine ⟨.pack fault, ?_, ?_⟩
      · rw [known]
        exact answers_unpacked packed
      · rw [isSome_message?_pack_iff, blamed, named]
    | ok data =>
      subst known
      exact absurd (Interface.pack_eq_ok packed) unasked

/-- Entries are asked for by texts. -/
theorem unasked_of_nameless {name function given : Value} (nameless : ∀ s, function ≠ .str s) :
    ¬∃ entry arguments, Asks name function given entry arguments := by
  rintro ⟨_, _, asks⟩
  exact asks.function.elim (nameless _) (nameless _)

theorem answers_of_blamed_long {name function given : Value}
    (unasked : ¬∃ entry arguments, Asks name function given entry arguments)
    (long : ¬(blamed name function).Short) :
    Answers (encodeCall name function given) (.error (.badValue .unprintable)) := by
  obtain ⟨fault, refused, shown⟩ := exists_fault_of_unasked unasked
  have hidden : Failure.message? (.encoding ⟨function, fault⟩) = none :=
    Option.not_isSome_iff_eq_none.mp (mt shown.mp long)
  rwa [raised_of_eq_none hidden] at refused

/-- A call is encoded exactly when it asks for an entry with arguments of its types. Its call data
are the selector of the entry and a body that holds the arguments; a body of `2 ^ 256` bytes would
be too long for its own offsets, and is longer than any that can be held. Every other call fails as
an encoding error of the function that was given, if the error can be shown. -/
theorem encodeCall_asked (name function given : Value) (loaded : Loaded) :
    (∀ entry arguments, Asks name function given entry arguments →
      ∃ body, (encodeCall name function given loaded).result =
          .ok (selectorOf entry.signature ++ body) ∧
        (body.length < 2 ^ 256 → decodeArguments? entry.types body = some arguments)) ∧
    ((¬∃ entry arguments, Asks name function given entry arguments) →
      ((blamed name function).Short → ∃ fault, (encodeCall name function given loaded).result =
        .error (.encoding ⟨function, fault⟩)) ∧
      (¬(blamed name function).Short → (encodeCall name function given loaded).result =
        .error (.badValue .unprintable))) := by
  constructor
  · intro entry arguments asks
    obtain ⟨interface, rfl, packed⟩ := asks.packed
    obtain ⟨_, _, values, _, denote⟩ := asks
    refine ⟨encodeArguments arguments, answers_packed packed loaded, ?_⟩
    intro short
    exact decodeArguments?_encodeArguments denote.of short
  · intro unasked
    refine ⟨fun short => ?_, fun long => answers_of_blamed_long unasked long loaded⟩
    obtain ⟨fault, refused, shown⟩ := exists_fault_of_unasked unasked
    refine ⟨fault, (refused loaded).trans (congrArg _ ?_)⟩
    exact raised_of_isSome (shown.mpr short)

/-- An integer that cannot be written, in the place of a function or of an interface, is not refused
with an encoding error. -/
theorem encodeCall_unwritten :
    (encodeCall (.str "IERC20") (.int (10 ^ Decimal.maxDigits : Nat)) (.list []) []).result =
        .error (.badValue .unprintable) ∧
      (encodeCall (.int (10 ^ Decimal.maxDigits : Nat)) (.str "transfer") (.list []) []).result =
        .error (.badValue .unprintable) := by
  have long : ∀ name function, blamed name function = .int (10 ^ Decimal.maxDigits : Nat) →
      ¬(blamed name function).Short := by
    intro name function same
    rw [same, Value.short_int_iff]
    exact Decimal.not_short_pow
  constructor
  · exact answers_of_blamed_long (unasked_of_nameless (by rintro _ ⟨⟩)) (long _ _ rfl) []
  · refine answers_of_blamed_long ?_ (long _ _ rfl) []
    rintro ⟨entry, arguments, ⟨interface, name, _⟩, _⟩
    contradiction

/-- A withdrawal with a message of three bytes, asked for by its signature, and a call of nothing. -/
theorem encodeCall_message : ∃ body,
    (encodeCall (.str "IEthToken") (.str "withdrawWithMessage(address,bytes)")
      (.list [.str (Account.uniform 1).form, .str "0xC0ffee"]) []).result =
        .ok (selectorOf "withdrawWithMessage(address,bytes)" ++ body) ∧
    decodeArguments? [.address, .bytes] body =
      some [.account (List.replicate 20 1), .data [0xC0, 0xFF, 0xEE]] ∧
    ∃ fault, (encodeCall (.str "IEthToken") .null (.list []) []).result =
      .error (.encoding ⟨.null, fault⟩) := by
  let entry : Entry := .function "withdrawWithMessage"
    [⟨"_l1Receiver", .address⟩, ⟨"_additionalData", .bytes⟩] [] .payable
  have asks : Asks (.str "IEthToken") (.str "withdrawWithMessage(address,bytes)")
      (.list [.str (Account.uniform 1).form, .str "0xC0ffee"]) entry
      [.account (Account.uniform 1).val, .data [0xC0, 0xFF, 0xEE]] := by
    refine ⟨⟨.ethToken, rfl, by decide⟩, Or.inr rfl, _, rfl, ?_⟩
    exact .cons (.form _) (.cons (.digits rfl (by decide)) .nil)
  obtain ⟨body, result, read⟩ := (encodeCall_asked _ _ _ []).1 entry _ asks
  obtain ⟨interface, name, packed⟩ := asks.packed
  have again := result
  rw [name] at again
  have same := (answers_packed packed []).symm.trans again
  obtain rfl := List.append_cancel_left (Except.ok.inj same)
  have short : (blamed (.str "IEthToken") .null).Short := by
    rw [show blamed (.str "IEthToken") .null = .null from rfl]
    exact Value.short_null
  have refused := ((encodeCall_asked (.str "IEthToken") .null (.list []) []).2
    (unasked_of_nameless (by rintro _ ⟨⟩))).1 short
  exact ⟨_, result, read (by decide +kernel), refused⟩

end LayerTwo.Abi
