import LayerTwo.Proofs.Address.Spelling
import LayerTwo.Proofs.Hex.Reading

/-! Which texts are addresses, and the checksum form (EIP-55) to which they are brought. An address is
40 hex digits with or without a mark in front; in mixed case it has to be the checksum form itself,
mark included. So two accepted texts come to one form exactly when they have the same bytes, and a
form in which the case of some letter was changed is refused, unless all letters are in one case. -/
namespace LayerTwo.Address

/-! The texts -/

/-- One of `[0-9a-fA-F]`. -/
def IsHexDigit (c : Char) : Prop :=
  ('0' ≤ c ∧ c ≤ '9') ∨ ('a' ≤ c ∧ c ≤ 'f') ∨ ('A' ≤ c ∧ c ≤ 'F')

/-- What may stand in front of the digits. -/
def marks : List (List Char) := [[], ['0', 'x'], ['0', 'X']]

/-- The text is 40 hex digits, behind a mark if there is one. -/
structure Marked (s : String) (letters : List Char) : Prop where
  text : ∃ mark ∈ marks, s.toList = mark ++ letters
  length : letters.length = 40
  digits : ∀ c ∈ letters, IsHexDigit c

/-- There is no capital among the letters, or nothing but capitals. -/
def OneCase (letters : List Char) : Prop :=
  (∀ c ∈ letters, c.isUpper = false) ∨ ∀ c ∈ letters, c.isLower = false

/-- The digits of the text, in whatever case, are the bytes of the account. -/
def Denotes (s : String) (account : Account) : Prop :=
  ∃ letters, Marked s letters ∧ letters.map Char.toLower = account.digits

variable {s : String} {letters : List Char} {account : Account}

theorem isHexDigit_iff {c : Char} : IsHexDigit c ↔ Hex.isDigit c = true := by
  simp only [IsHexDigit, Char.le_def, UInt32.le_iff_toNat_le, Char.toNat_val, Hex.isDigit,
    Hex.digitValue?]
  split_ifs <;> simp <;> omega

theorem isDigits_iff :
    isDigits letters = true ↔ letters.length = 40 ∧ ∀ c ∈ letters, IsHexDigit c := by
  simp only [isDigits, Bool.and_eq_true, beq_iff_eq, List.all_eq_true, isHexDigit_iff]

theorem exists_mark (text : List Char) : ∃ mark ∈ marks, text = mark ++ body text := by
  simp only [marks, List.mem_cons, List.not_mem_nil, or_false, exists_eq_or_imp, exists_eq_left]
  unfold body
  split
  · exact Or.inr (Or.inl rfl)
  · exact Or.inr (Or.inr rfl)
  · exact Or.inl rfl

/-- No digits begin with a mark, so the mark that is taken off is the one that was put in front. -/
theorem body_append {mark : List Char} (member : mark ∈ marks)
    (digits : ∀ c ∈ letters, IsHexDigit c) : body (mark ++ letters) = letters := by
  have small : Hex.isDigit 'x' = false := rfl
  have large : Hex.isDigit 'X' = false := rfl
  simp only [marks, List.mem_cons, List.not_mem_nil, or_false] at member
  rcases member with rfl | rfl | rfl
  · rw [List.nil_append]
    unfold body
    split
    · exact absurd (isHexDigit_iff.mp (digits 'x' (by simp))) (by simp [small])
    · exact absurd (isHexDigit_iff.mp (digits 'X' (by simp))) (by simp [large])
    · rfl
  · rfl
  · rfl

theorem marked_iff : Marked s letters ↔ isDigits letters = true ∧ body s.toList = letters := by
  rw [isDigits_iff]
  constructor
  · rintro ⟨⟨mark, member, text⟩, length, digits⟩
    rw [text]
    exact ⟨⟨length, digits⟩, body_append member digits⟩
  · rintro ⟨⟨length, digits⟩, rfl⟩
    exact ⟨exists_mark s.toList, length, digits⟩

theorem oneCase_iff : OneCase letters ↔
    letters = letters.map Char.toLower ∨ letters = letters.map Char.toUpper := by
  have fixed : ∀ f : Char → Char, letters = letters.map f ↔ ∀ c ∈ letters, c = f c := by
    intro f
    have same := List.map_inj_left (f := id) (g := f) (l := letters)
    rwa [List.map_id] at same
  have lower : ∀ c : Char, c = c.toLower ↔ c.isUpper = false := by
    intro c
    constructor
    · intro same
      rw [same]
      exact Char.isUpper_toLower_eq_false c
    · intro small
      exact (Char.toLower_eq_of_not_isUpper (by simp [small])).symm
  have upper : ∀ c : Char, c = c.toUpper ↔ c.isLower = false := by
    intro c
    constructor
    · intro same
      rw [same]
      exact Char.isLower_toUpper_eq_false c
    · intro large
      exact (Char.toUpper_eq_of_not_isLower (by simp [large])).symm
  simp only [OneCase, fixed, lower, upper]

/-! What is accepted -/

/-- A text is brought to the form of its bytes if its letters are in one case or it is that form. -/
theorem read_eq_ok_iff {value : Value} {form : String} : read value = .ok form ↔
    ∃ s letters, ∃ account : Account, value = .str s ∧ Marked s letters ∧
      letters.map Char.toLower = account.digits ∧ (OneCase letters ∨ s = account.form) ∧
      form = account.form := by
  have same : ∀ {s : String} {account : Account} {letters : List Char},
      letters.map Char.toLower = account.digits →
      (s.toList = checksum letters ↔ s = account.form) := by
    intro s account letters lowered
    rw [checksum_of_map_toLower lowered, ← account.toList_form, String.toList_inj]
  constructor
  · intro accepted
    unfold read at accepted
    split at accepted
    · rename_i s
      split at accepted
      · rename_i text normalized
        cases accepted
        simp only [normalize] at normalized
        split_ifs at normalized with valid spelled
        cases normalized
        obtain ⟨account, lowered⟩ := exists_account valid
        rw [← or_assoc, ← oneCase_iff, same lowered] at spelled
        refine ⟨s, _, account, rfl, marked_iff.mpr ⟨valid, rfl⟩, lowered, spelled, ?_⟩
        rw [checksum_of_map_toLower lowered]
        rfl
      · contradiction
    · contradiction
  · rintro ⟨s, letters, account, rfl, marked, lowered, spelled, rfl⟩
    obtain ⟨valid, rfl⟩ := marked_iff.mp marked
    rw [← same lowered, oneCase_iff, or_assoc] at spelled
    have normalized : normalize s.toList = .ok (checksum account.digits) := by
      rw [normalize, if_pos valid, if_pos spelled, checksum_of_map_toLower lowered]
    simp only [read, normalized]
    rfl

/-- The fault of a refused value tells digits in a wrong case from everything else. -/
theorem read_eq_error {value : Value} {fault : Fault} (refused : read value = .error fault) :
    fault.value = value ∧
      (fault.defect = .badChecksum ↔ ∃ s letters, value = .str s ∧ Marked s letters) := by
  unfold read at refused
  split at refused
  · rename_i s
    split at refused
    · contradiction
    · rename_i defect normalized
      cases refused
      refine ⟨rfl, ?_⟩
      simp only [normalize] at normalized
      split_ifs at normalized with valid
      · cases normalized
        exact iff_of_true rfl ⟨s, _, rfl, marked_iff.mpr ⟨valid, rfl⟩⟩
      · cases normalized
        refine iff_of_false (by simp) ?_
        rintro ⟨_, letters, given, marked⟩
        cases given
        obtain ⟨digits, rfl⟩ := marked_iff.mp marked
        exact valid digits
  · rename_i text
    cases refused
    refine ⟨rfl, iff_of_false (by simp) ?_⟩
    rintro ⟨s, _, same, _⟩
    exact text s same

/-! The checksum form -/

/-- The half byte at a place of the hash of the digits; the high half of a byte comes first. -/
def Account.weight (account : Account) (place : Nat) : Nat :=
  let byte := ((Keccak.digestText account.digits).getD (place / 2) 0).toNat
  if place % 2 = 0 then byte / 16 else byte % 16

/-- What stands at a place of the checksum form: the digit, a capital if its weight is eight or
more. -/
def Account.letter (account : Account) (place : Fin 40) : Char :=
  let digit := account.digits.get (place.cast account.length_digits.symm)
  if 8 ≤ account.weight place then digit.toUpper else digit

theorem getElem?_halves (octets : List UInt8) (place : Nat) :
    (octets.flatMap fun byte => [byte.toNat / 16, byte.toNat % 16])[place]? =
      octets[place / 2]?.map fun byte =>
        if place % 2 = 0 then byte.toNat / 16 else byte.toNat % 16 := by
  induction octets generalizing place with
  | nil => simp
  | cons byte rest ih =>
    match place with
    | 0 => rfl
    | 1 => rfl
    | place + 2 =>
      have half : (place + 2) / 2 = place / 2 + 1 := by omega
      have parity : (place + 2) % 2 = place % 2 := by omega
      simp only [List.flatMap_cons, List.cons_append, List.nil_append, List.getElem?_cons_succ,
        half, parity, ih]

theorem Account.getElem_weights (account : Account) {place : Nat}
    (within : place < (weights account.digits).length) :
    (weights account.digits)[place] = account.weight place := by
  have found := getElem?_halves (Keccak.digestText account.digits) place
  change (weights account.digits)[place]? = _ at found
  rw [List.getElem?_eq_getElem within] at found
  obtain ⟨byte, held, same⟩ := Option.map_eq_some_iff.mp found.symm
  rw [← same, weight, List.getD_eq_getElem?_getD, held]
  rfl

theorem Account.toList_form_eq_letters (account : Account) :
    account.form.toList = '0' :: 'x' :: List.ofFn account.letter := by
  rw [account.toList_form, checksum, account.map_toLower_digits]
  refine congrArg (fun letters => '0' :: 'x' :: letters) (List.ext_getElem ?_ ?_)
  · simp [account.length_digits, length_weights]
  · intro place _ within
    rw [List.getElem_zipWith, List.getElem_ofFn, account.getElem_weights]
    rfl

/-! Spellings of one account -/

theorem Marked.unique {others : List Char} (marked : Marked s letters) (again : Marked s others) :
    letters = others :=
  (marked_iff.mp marked).2.symm.trans (marked_iff.mp again).2

theorem Denotes.unique {other : Account} (denotes : Denotes s account) (again : Denotes s other) :
    account = other := by
  obtain ⟨letters, marked, lowered⟩ := denotes
  obtain ⟨_, markedAgain, loweredAgain⟩ := again
  obtain rfl := marked.unique markedAgain
  refine Account.form_injective ?_
  rw [Account.form, Account.form, ← lowered, ← loweredAgain]

/-- A text that differs from a checksum form in case has its digits behind a mark. -/
theorem marked_of_recased (recased : s.toList.map Char.toLower = account.form.toList.map Char.toLower) :
    ∃ letters, Marked s letters ∧ letters.map Char.toLower = account.digits := by
  obtain ⟨form, written, lowered⟩ := account.form_letters
  rw [account.toList_form, written, List.map_cons, List.map_cons, lowered] at recased
  obtain ⟨rest, unmarked, lowered⟩ := Hex.map_toLower_eq_marked_iff.mp recased
  obtain ⟨length, digits⟩ := isDigits_iff.mp (isDigits_of_map_toLower lowered)
  refine ⟨rest, ⟨?_, length, digits⟩, lowered⟩
  rcases Hex.unmark?_eq_some_iff.mp unmarked with text | text
  · exact ⟨['0', 'x'], by simp [marks], text⟩
  · exact ⟨['0', 'X'], by simp [marks], text⟩

theorem denotes_of_read {form : String} (accepted : read (.str s) = .ok form) :
    ∃ account : Account, Denotes s account ∧ form = account.form := by
  obtain ⟨_, letters, account, given, marked, lowered, _, same⟩ := read_eq_ok_iff.mp accepted
  cases given
  exact ⟨account, ⟨letters, marked, lowered⟩, same⟩

/-- What is accepted has its letters in one case, or is the form of its bytes. -/
theorem exists_read_iff {value : Value} : (∃ form, read value = .ok form) ↔
    ∃ s letters, value = .str s ∧ Marked s letters ∧
      (OneCase letters ∨ ∃ account : Account, Denotes s account ∧ s = account.form) := by
  constructor
  · rintro ⟨form, accepted⟩
    obtain ⟨s, letters, account, rfl, marked, lowered, spelled, _⟩ := read_eq_ok_iff.mp accepted
    refine ⟨s, letters, rfl, marked, spelled.imp_right ?_⟩
    exact fun same => ⟨account, ⟨letters, marked, lowered⟩, same⟩
  · rintro ⟨s, letters, rfl, marked, spelled⟩
    obtain ⟨account, lowered⟩ := exists_account (marked_iff.mp marked).1
    refine ⟨account.form, read_eq_ok_iff.mpr ⟨s, letters, account, rfl, marked, lowered, ?_, rfl⟩⟩
    refine spelled.imp_right ?_
    rintro ⟨other, denotes, same⟩
    rwa [Denotes.unique ⟨letters, marked, lowered⟩ denotes]

/-- Two accepted texts come to one form exactly if they are about one account. -/
theorem form_eq_iff_denotes {t form other : String} (accepted : read (.str s) = .ok form)
    (acceptedToo : read (.str t) = .ok other) :
    form = other ↔ ∃ account, Denotes s account ∧ Denotes t account := by
  obtain ⟨first, denotes, rfl⟩ := denotes_of_read accepted
  obtain ⟨second, denotesToo, rfl⟩ := denotes_of_read acceptedToo
  constructor
  · intro same
    obtain rfl := Account.form_injective same
    exact ⟨first, denotes, denotesToo⟩
  · rintro ⟨account, one, two⟩
    rw [denotes.unique one, denotesToo.unique two]

/-- A form that was changed in case is accepted only if all its letters are in one case. -/
theorem exists_read_recased_iff (changed : s ≠ account.form)
    (recased : s.toList.map Char.toLower = account.form.toList.map Char.toLower) :
    (∃ form, read (.str s) = .ok form) ↔ ∃ letters, Marked s letters ∧ OneCase letters := by
  obtain ⟨letters, marked, lowered⟩ := marked_of_recased recased
  constructor
  · rintro ⟨form, accepted⟩
    obtain ⟨_, others, other, given, again, loweredAgain, spelled, _⟩ := read_eq_ok_iff.mp accepted
    cases given
    have same := Denotes.unique ⟨others, again, loweredAgain⟩ ⟨letters, marked, lowered⟩
    exact ⟨others, again, spelled.resolve_right (same ▸ changed)⟩
  · rintro ⟨others, again, oneCase⟩
    obtain rfl := marked.unique again
    exact ⟨account.form, read_eq_ok_iff.mpr
      ⟨s, letters, account, rfl, marked, lowered, Or.inl oneCase, rfl⟩⟩

/-- The checksum form by its digits; what is accepted, what it is brought to, and that all else is
refused; forms are kept, and each account has one; a form whose letters were put in another case is
accepted only if they are all in one case. -/
theorem read_spellings :
    (∀ account : Account, account.form.toList = '0' :: 'x' :: List.ofFn account.letter) ∧
    (∀ value, (∃ form, read value = .ok form) ↔ ∃ s letters, value = .str s ∧ Marked s letters ∧
      (OneCase letters ∨ ∃ account : Account, Denotes s account ∧ s = account.form)) ∧
    (∀ value form, read value = .ok form →
      ∃ s, ∃ account : Account, value = .str s ∧ Denotes s account ∧ form = account.form) ∧
    (∀ value, (∀ form, read value ≠ .ok form) →
      ∃ fault : Fault, read value = .error fault ∧ fault.value = value ∧
        (fault.defect = .badChecksum ↔ ∃ s letters, value = .str s ∧ Marked s letters)) ∧
    (∀ value form, read value = .ok form → read (.str form) = .ok form) ∧
    (∀ s t form other, read (.str s) = .ok form → read (.str t) = .ok other →
      (form = other ↔ ∃ account, Denotes s account ∧ Denotes t account)) ∧
    ∀ (account : Account) (s : String), s ≠ account.form →
      s.toList.map Char.toLower = account.form.toList.map Char.toLower →
      ((∃ form, read (.str s) = .ok form) ↔ ∃ letters, Marked s letters ∧ OneCase letters) := by
  refine ⟨Account.toList_form_eq_letters, fun value => exists_read_iff, ?_, ?_, ?_,
    fun s t form other => form_eq_iff_denotes, fun account s => exists_read_recased_iff⟩
  · intro value form accepted
    obtain ⟨s, _, _, rfl, _⟩ := read_eq_ok_iff.mp accepted
    obtain ⟨account, denotes, same⟩ := denotes_of_read accepted
    exact ⟨s, account, rfl, denotes, same⟩
  · intro value refused
    cases result : read value with
    | ok form => exact absurd result (refused form)
    | error fault => exact ⟨fault, rfl, read_eq_error result⟩
  · intro value form accepted
    obtain ⟨account, rfl⟩ := read_eq_ok accepted
    exact read_form account

/-- An address in mixed case. -/
def mixedAccount : Account := ⟨[0x5A, 0xAE, 0xB6, 0x05, 0x3F, 0x3E, 0x94, 0xC9, 0xB9, 0xA0, 0x9F,
  0x33, 0x66, 0x94, 0x35, 0xE7, 0xEF, 0x1B, 0xEA, 0xED], rfl⟩

theorem form_mixedAccount : mixedAccount.form = "0x5aAeb6053F3E94C9b9A09f33669435E7Ef1BeAed" := by
  have letters : checksum mixedAccount.digits =
      "0x5aAeb6053F3E94C9b9A09f33669435E7Ef1BeAed".toList := by decide +kernel
  rw [Account.form, letters, String.ofList_toList]

/-- The address is kept as it is, and refused once its first capital is not one. -/
theorem read_spellings_mixed :
    read (.str "0x5aAeb6053F3E94C9b9A09f33669435E7Ef1BeAed") =
        .ok "0x5aAeb6053F3E94C9b9A09f33669435E7Ef1BeAed" ∧
      ∀ form, read (.str "0x5aaeb6053F3E94C9b9A09f33669435E7Ef1BeAed") ≠ .ok form := by
  obtain ⟨_, _, _, _, kept, _, changed⟩ := read_spellings
  rw [← form_mixedAccount]
  refine ⟨kept _ _ (read_form mixedAccount), ?_⟩
  intro form accepted
  obtain ⟨letters, marked, oneCase⟩ := (changed mixedAccount _ (by rw [form_mixedAccount]; decide)
    (by rw [form_mixedAccount]; decide +kernel)).mp ⟨form, accepted⟩
  obtain ⟨_, rfl⟩ := marked_iff.mp marked
  rcases oneCase with small | large
  · exact absurd (small 'F' (by decide +kernel)) (by decide)
  · exact absurd (large 'b' (by decide +kernel)) (by decide)

end LayerTwo.Address
