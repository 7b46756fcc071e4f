import LayerTwo.Proofs.Address.Form

/-! Texts that spell an account. Such a text is accepted as an address and its digits, in whatever
case, are the bytes of the account; that is so exactly when the text reads as the checksum form of
the account. Two texts that spell one account read alike. -/
namespace LayerTwo.Address

/-- The value is a text that is accepted as an address, with the digits of the account. -/
structure Spells (value : Value) (account : Account) : Prop where
  accepted : ∃ form, read value = .ok form
  digits : ∃ s, value = .str s ∧ Hex.toBytes? (body s.toList) = some account.val

theorem spells_iff {value : Value} {account : Account} :
    Spells value account ↔ read value = .ok account.form := by
  constructor
  · rintro ⟨⟨form, accepted⟩, s, rfl, digits⟩
    have lowered := Hex.toBytes?_eq_some_iff.mp digits
    simp only [read] at accepted ⊢
    split at accepted
    · rename_i text normalized
      obtain ⟨other, rfl, spelled⟩ := normalize_eq_ok normalized
      have same : other.digits = account.digits := spelled.symm.trans lowered
      rw [same]
      rfl
    · contradiction
  · intro accepted
    refine ⟨⟨_, accepted⟩, ?_⟩
    unfold read at accepted
    split at accepted
    · rename_i s
      split at accepted
      · rename_i text normalized
        obtain ⟨other, rfl, spelled⟩ := normalize_eq_ok normalized
        have same : other = account := Account.form_injective (Except.ok.inj accepted)
        subst same
        exact ⟨s, rfl, Hex.toBytes?_eq_some_iff.mpr spelled⟩
      · contradiction
    · contradiction

/-- The digits of an account are accepted in one case, whatever stands in front of them. -/
theorem spells_of_case {text : List Char} {account : Account}
    (lowered : (body text).map Char.toLower = account.digits)
    (uniform : body text = (body text).map Char.toLower ∨
      body text = (body text).map Char.toUpper) : Spells (.str (String.ofList text)) account := by
  have accepted : normalize text = .ok (checksum account.digits) := by
    rw [normalize, if_pos (isDigits_of_map_toLower lowered), checksum_of_map_toLower lowered,
      if_pos (or_assoc.mp (Or.inl uniform))]
  rw [spells_iff]
  simp only [read, String.toList_ofList, accepted]
  rfl

theorem spells_form (account : Account) : Spells (.str account.form) account :=
  spells_iff.mpr (read_form account)

/-- The address in lower case. -/
def Account.lower (account : Account) : String := String.ofList ('0' :: 'x' :: account.digits)

/-- The address in upper case, its mark included. -/
def Account.upper (account : Account) : String :=
  String.ofList ('0' :: 'X' :: account.digits.map Char.toUpper)

theorem spells_lower (account : Account) : Spells (.str account.lower) account := by
  have lowered := account.map_toLower_digits
  exact spells_of_case lowered (Or.inl lowered.symm)

theorem spells_upper (account : Account) : Spells (.str account.upper) account := by
  refine spells_of_case ?_ (Or.inr ?_)
  · simp only [body, List.map_map, Function.comp_def, Char.toLower_toUpper_eq_toLower]
    exact account.map_toLower_digits
  · simp only [body, List.map_map, Function.comp_def, Char.toUpper_toUpper_eq_toUpper]

/-! The zero address -/

/-- There are no letters among zeros, so they are written in one way only. -/
theorem map_toLower_eq_zeros_iff {letters : List Char} :
    letters.map Char.toLower = (Account.uniform 0).digits ↔ letters = List.replicate 40 '0' := by
  have zeros : (Account.uniform 0).digits = List.replicate 40 '0' := by decide
  rw [zeros]
  constructor
  · intro lowered
    have length := congrArg List.length lowered
    rw [List.length_map, List.length_replicate] at length
    rw [List.eq_replicate_iff]
    refine ⟨length, ?_⟩
    intro c member
    have digit : c.toLower ∈ List.replicate 40 '0' := lowered ▸ List.mem_map_of_mem member
    exact Hex.toLower_eq_zero_iff.mp (List.eq_of_mem_replicate digit)
  · rintro rfl
    exact List.map_replicate

/-- The checksum form of zeros does not depend on the hash. -/
theorem form_uniform_zero : (Account.uniform 0).form = zero := by
  obtain ⟨letters, form, lowered⟩ := (Account.uniform 0).form_letters
  rw [Account.form, form, map_toLower_eq_zeros_iff.mp lowered]
  rfl

theorem form_eq_zero_iff {account : Account} : account.form = zero ↔ account = .uniform 0 := by
  rw [← form_uniform_zero]
  constructor
  · exact Account.form_injective
  · exact congrArg Account.form

end LayerTwo.Address
