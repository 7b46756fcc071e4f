import LayerTwo.Payload.Block
import LayerTwo.Proofs.Hex.Reading
import LayerTwo.Proofs.Result

/-! What a value on the wire stands for. Each codec reads exactly the values that its wire form
allows: hex data of one size, canonical quantities of at most 64 digits, addresses, and arrays whose
items are well formed one by one. -/
namespace LayerTwo.Block

open Hex

/-- Hex data of the given size, if there is one, stands for its bytes. -/
def DataStands (size : Option Int) (raw field : Value) : Prop :=
  ∃ s octets, raw = .str s ∧ Spells s (writeData octets) ∧
    (∀ expected, size = some expected → expected = octets.length) ∧ field = .bytes octets

/-- A transaction is an object, which stands for itself, or the hash of one. -/
def TransactionStands (raw field : Value) : Prop :=
  (∃ entries, raw = .dict entries ∧ field = .dict entries) ∨ DataStands (some 32) raw field

/-- An array stands for its items. -/
def ArrayStands (stands : Value → Value → Prop) (raw field : Value) : Prop :=
  ∃ items fields, raw = .list items ∧ List.Forall₂ stands items fields ∧ field = .tuple fields

/-- A value on the wire stands for the value of a field. -/
def Codec.Stands : Codec → Value → Value → Prop
  | .data size, raw, field => DataStands size raw field
  | .quantity, raw, field =>
    ∃ s n, raw = .str s ∧ Spells s (writeQuantity n) ∧ n < 16 ^ 64 ∧ field = .int n
  | .address, raw, field => ∃ form, Address.read raw = .ok form ∧ field = .str form
  | .hashes, raw, field => ArrayStands (DataStands (some 32)) raw field
  | .anything, raw, field => ArrayStands Eq raw field
  | .transactions, raw, field => ArrayStands TransactionStands raw field

theorem readHash_eq_ok_iff {raw field : Value} :
    readHash raw = .ok field ↔ DataStands (some 32) raw field := by
  unfold readHash
  constructor
  · intro read
    split at read
    · rename_i octets found
      cases read
      obtain ⟨s, rfl, spelled, sized⟩ := readData_eq_ok_iff.mp found
      exact ⟨s, octets, rfl, spelled, sized, rfl⟩
    · contradiction
  · rintro ⟨s, octets, rfl, spelled, sized, rfl⟩
    rw [readData_eq_ok_iff.mpr ⟨s, rfl, spelled, sized⟩]

theorem readTransaction_eq_ok_iff {raw field : Value} :
    readTransaction raw = .ok field ↔ TransactionStands raw field := by
  unfold readTransaction TransactionStands
  split
  · rename_i entries
    constructor
    · intro read
      cases read
      exact Or.inl ⟨entries, rfl, rfl⟩
    · rintro (⟨_, same, rfl⟩ | ⟨_, _, _, _⟩)
      · cases same
        rfl
      · contradiction
  · rename_i object
    rw [readHash_eq_ok_iff]
    constructor
    · exact Or.inr
    · rintro (⟨entries, same, _⟩ | stands)
      · exact absurd same (object entries)
      · exact stands

theorem readArray_eq_ok_iff {read : Value → Except Payload.Fault Value}
    {stands : Value → Value → Prop} (item : ∀ raw field, read raw = .ok field ↔ stands raw field)
    {raw field : Value} : readArray read raw = .ok field ↔ ArrayStands stands raw field := by
  unfold readArray ArrayStands
  split
  · rename_i items
    simp only [Result.map_eq_ok_iff, Result.mapM_eq_ok_iff, item]
    constructor
    · rintro ⟨fields, all, rfl⟩
      exact ⟨items, fields, rfl, all, rfl⟩
    · rintro ⟨_, fields, same, all, rfl⟩
      cases same
      exact ⟨fields, all, rfl⟩
  · rename_i array
    simp only [reduceCtorEq, false_iff]
    rintro ⟨items, _, same, _⟩
    exact array items same

/-- A codec reads exactly what stands for something, and what it stands for. -/
theorem Codec.read_eq_ok_iff {codec : Codec} {raw field : Value} :
    codec.read raw = .ok field ↔ codec.Stands raw field := by
  cases codec with
  | data size =>
    simp only [read, Stands, DataStands, Result.map_eq_ok_iff, Result.mapError_eq_ok_iff,
      readData_eq_ok_iff]
    constructor
    · rintro ⟨octets, ⟨s, rfl, spelled, sized⟩, rfl⟩
      exact ⟨s, octets, rfl, spelled, sized, rfl⟩
    · rintro ⟨s, octets, rfl, spelled, sized, rfl⟩
      exact ⟨octets, ⟨s, rfl, spelled, sized⟩, rfl⟩
  | quantity =>
    -- the number is read as a natural number and kept as an integer
    change (((readQuantity raw).mapError Payload.Fault.hex >>= fun n => pure (n : Int)).map
      Value.int) = .ok field ↔ _
    simp only [Result.map_eq_ok_iff, Result.bind_eq_ok_iff, Result.mapError_eq_ok_iff,
      readQuantity_eq_ok_iff, Stands]
    constructor
    · rintro ⟨_, ⟨n, ⟨s, rfl, spelled, small⟩, same⟩, rfl⟩
      cases same
      exact ⟨s, n, rfl, spelled, by omega, rfl⟩
    · rintro ⟨s, n, rfl, spelled, small, rfl⟩
      exact ⟨n, ⟨n, ⟨s, rfl, spelled, by omega⟩, rfl⟩, rfl⟩
  | address =>
    simp only [read, Stands, Result.map_eq_ok_iff, Result.mapError_eq_ok_iff]
    constructor
    · rintro ⟨form, read, rfl⟩
      exact ⟨form, read, rfl⟩
    · rintro ⟨form, read, rfl⟩
      exact ⟨form, read, rfl⟩
  | hashes => exact readArray_eq_ok_iff fun _ _ => readHash_eq_ok_iff
  | anything =>
    refine readArray_eq_ok_iff fun raw field => ?_
    simp
  | transactions => exact readArray_eq_ok_iff fun _ _ => readTransaction_eq_ok_iff

end LayerTwo.Block
