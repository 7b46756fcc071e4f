import LayerTwo.Abi.Encoding
import LayerTwo.Proofs.Hex.Spelling

/-! Every accepted spelling of an address is brought to the checksum form of the 20 bytes that it
spells. The checksum form is a fixed point of that, whatever the hash is, and gives its bytes back;
so texts in this form can stand for the bytes. -/
namespace LayerTwo.Address

/-- The bytes of an account. -/
abbrev Account := { octets : List UInt8 // octets.length = 20 }

namespace Account

def digits (account : Account) : List Char := Hex.ofBytes account.val

/-- The checksum form of the address. -/
def form (account : Account) : String := String.ofList (checksum account.digits)

theorem length_digits (account : Account) : account.digits.length = 40 := by
  rw [digits, Hex.length_ofBytes, account.property]

theorem map_toLower_digits (account : Account) :
    account.digits.map Char.toLower = account.digits :=
  Hex.toBytes?_eq_some_iff.mp (Hex.toBytes?_ofBytes account.val)

theorem toList_form (account : Account) : account.form.toList = checksum account.digits :=
  String.toList_ofList

end Account

theorem length_weights (lower : List Char) : (weights lower).length = 64 := by
  simp [weights, Keccak.digestText, Keccak.length_digest]

/-- Capitals change no letter but in case. -/
theorem map_toLower_raised (lower : List Char) (weights : List Nat)
    (enough : lower.length ≤ weights.length) :
    (List.zipWith (fun c weight => if 8 ≤ weight then Char.toUpper c else c) lower weights).map
      Char.toLower = lower.map Char.toLower := by
  induction lower generalizing weights with
  | nil => rfl
  | cons c rest ih =>
    cases weights with
    | nil => simp at enough
    | cons weight others =>
      simp only [List.length_cons] at enough
      rw [List.zipWith_cons_cons, List.map_cons, List.map_cons, ih others (by omega)]
      split_ifs
      · rw [Char.toLower_toUpper_eq_toLower]
      · rfl

theorem checksum_map_toLower (text : List Char) :
    checksum (text.map Char.toLower) = checksum text := by
  simp only [checksum, List.map_map, Function.comp_def, Char.toLower_toLower_eq_toLower]

/-- The checksum form is the mark and the same letters in some case. -/
theorem checksum_eq_cons (text : List Char) (short : text.length ≤ 64) :
    ∃ letters, checksum text = '0' :: 'x' :: letters ∧
      letters.map Char.toLower = text.map Char.toLower := by
  refine ⟨_, rfl, ?_⟩
  rw [map_toLower_raised _ _ (by simpa [length_weights] using short)]
  simp only [List.map_map, Function.comp_def, Char.toLower_toLower_eq_toLower]

theorem isDigits_of_map_toLower {text : List Char} {account : Account}
    (lowered : text.map Char.toLower = account.digits) : isDigits text = true := by
  have length : text.length = 40 := by
    rw [← List.length_map Char.toLower, lowered, account.length_digits]
  have valid : text.all Hex.isDigit = true := by
    rw [← Hex.all_isDigit_map_toLower, lowered]
    exact Hex.all_isDigit_ofBytes account.val
  simp [isDigits, length, valid]

theorem exists_account {text : List Char} (valid : isDigits text = true) :
    ∃ account : Account, text.map Char.toLower = account.digits := by
  simp only [isDigits, Bool.and_eq_true, beq_iff_eq] at valid
  obtain ⟨octets, read⟩ := Hex.toBytes?_of_all_isDigit (by omega) valid.2
  have lowered := Hex.toBytes?_eq_some_iff.mp read
  have length := Hex.length_ofBytes octets
  rw [← lowered, List.length_map] at length
  exact ⟨⟨octets, by omega⟩, lowered⟩

/-- The letters of a checksum form, which are its digits in some case. -/
theorem Account.form_letters (account : Account) :
    ∃ letters, checksum account.digits = '0' :: 'x' :: letters ∧
      letters.map Char.toLower = account.digits := by
  obtain ⟨letters, form, lowered⟩ := checksum_eq_cons account.digits
    (by rw [account.length_digits]; decide)
  exact ⟨letters, form, lowered.trans account.map_toLower_digits⟩

theorem checksum_of_map_toLower {text : List Char} {account : Account}
    (lowered : text.map Char.toLower = account.digits) :
    checksum text = checksum account.digits := by
  rw [← checksum_map_toLower, lowered]

theorem normalize_eq_ok {text form : List Char} (accepted : normalize text = .ok form) :
    ∃ account : Account, form = checksum account.digits ∧
      (body text).map Char.toLower = account.digits := by
  simp only [normalize] at accepted
  split_ifs at accepted with valid
  cases accepted
  obtain ⟨account, lowered⟩ := exists_account valid
  exact ⟨account, checksum_of_map_toLower lowered, lowered⟩

theorem normalize_checksum (account : Account) :
    normalize (checksum account.digits) = .ok (checksum account.digits) := by
  obtain ⟨letters, form, lowered⟩ := account.form_letters
  have fixed : checksum letters = '0' :: 'x' :: letters :=
    (checksum_of_map_toLower lowered).trans form
  rw [form]
  simp only [normalize, body, isDigits_of_map_toLower lowered, fixed, or_true, if_true]

theorem read_eq_ok {value : Value} {form : String} (accepted : read value = .ok form) :
    ∃ account : Account, form = account.form := by
  unfold read at accepted
  split at accepted
  · split at accepted <;> try contradiction
    rename_i text normalized
    cases accepted
    obtain ⟨account, rfl, _⟩ := normalize_eq_ok normalized
    exact ⟨account, rfl⟩
  · contradiction

theorem ne_null_of_read {value : Value} {form : String} (accepted : read value = .ok form) :
    value ≠ .null := by
  rintro rfl
  contradiction

theorem read_form (account : Account) : read (.str account.form) = .ok account.form := by
  simp only [read, account.toList_form, normalize_checksum]
  rfl

theorem addressBytes?_form (account : Account) :
    Abi.addressBytes? account.form = some account.val := by
  obtain ⟨letters, form, lowered⟩ := account.form_letters
  have length : letters.length = 40 := by
    rw [← List.length_map Char.toLower, lowered, account.length_digits]
  simp only [Abi.addressBytes?, account.toList_form, form, body, length, if_true]
  exact Hex.toBytes?_eq_some_iff.mpr lowered

theorem isChecksummed_form (account : Account) :
    Abi.isChecksummed .address (.str account.form) = true := by
  obtain ⟨letters, form, lowered⟩ := account.form_letters
  simp only [Abi.isChecksummed, account.toList_form, form, body, beq_iff_eq]
  exact (form.symm.trans (checksum_of_map_toLower lowered).symm)

theorem Account.form_injective {a b : Account} (same : a.form = b.form) : a = b := by
  have bytes := congrArg Abi.addressBytes? same
  rw [addressBytes?_form, addressBytes?_form, Option.some.injEq] at bytes
  exact Subtype.ext bytes

theorem Account.form_ne_empty (account : Account) : account.form ≠ "" := by
  obtain ⟨letters, form, _⟩ := account.form_letters
  intro empty
  have none := account.toList_form
  rw [empty, form] at none
  contradiction

/-- The account whose bytes are all the same. -/
def Account.uniform (byte : UInt8) : Account := ⟨List.replicate 20 byte, rfl⟩

theorem Account.form_uniform_ne_zero {byte : UInt8} (other : byte ≠ 0) :
    (uniform byte).form ≠ zero := by
  intro same
  have bytes := congrArg Abi.addressBytes? same
  have zeros : Abi.addressBytes? zero = some (List.replicate 20 0) := by decide +kernel
  rw [addressBytes?_form, zeros, Option.some.injEq] at bytes
  exact other (List.cons.inj bytes).1

/-- The account of the system contract of the native currency. -/
def nativeAccount : Account := ⟨List.replicate 18 0 ++ [0x80, 0x0A], rfl⟩

theorem form_nativeAccount : nativeAccount.form = nativeToken := by
  have letters : checksum nativeAccount.digits = nativeToken.toList := by decide +kernel
  rw [Account.form, letters, String.ofList_toList]

end LayerTwo.Address
