import LayerTwo.Proofs.Message.Made
import LayerTwo.Proofs.Payload.Shown

/-! Ranges and their wire form. A range is written as a list of two quantities of any size, and read
from a list or tuple of two quantities of at most 256 bits, in either case. So what is written reads
back up to that bound, and what is read is written in lower case, whatever held the two texts. -/
namespace LayerTwo.BlockRange

open Hex Operation Schema

/-! Ranges that are made -/

theorem nonneg_of_check {inputs : Entries} {range : BlockRange}
    (accepted : BlockRange.check inputs = .ok range) : 0 ≤ range.first ∧ 0 ≤ range.last := by
  obtain ⟨_, last, first, lastRead, rfl⟩ := Checked.seq_eq_ok_iff.mp accepted
  obtain ⟨first, firstRead, rfl⟩ := Checked.map_eq_ok_iff.mp first
  obtain ⟨_, firstRead⟩ := required_eq_ok firstRead
  obtain ⟨_, lastRead⟩ := required_eq_ok lastRead
  exact ⟨natural_eq_ok firstRead, natural_eq_ok lastRead⟩

theorem check_of_natural (first last : Nat) :
    BlockRange.check [("beginning", .int first), ("end", .int last)] = .ok ⟨first, last⟩ := by
  rw [check, required_of_find? (find?_of_lookup (.int first) rfl [])
    (natural_int (Int.natCast_nonneg first)), required_of_find?
    (find?_of_lookup (.int last) rfl []) (natural_int (Int.natCast_nonneg last))]
  rfl

theorem made_of_natural (first last : Nat) :
    (BlockRange.mk first last).record.Made .blockRange := by
  refine .ofInputs [("beginning", .int first), ("end", .int last)] ?_
  rw [Record.make, check_of_natural]
  rfl

/-- The bounds of a range that is made can be written as quantities. -/
theorem exists_of_made {record : Record} (made : record.Made .blockRange) :
    ∃ first last : Nat, record = (BlockRange.mk first last).record := by
  obtain ⟨inputs, made⟩ := made.inputs
  obtain ⟨⟨first, last⟩, checked, rfl⟩ := result_map_eq_ok made
  obtain ⟨nonneg, nonnegLast⟩ := nonneg_of_check checked
  lift first to Nat using nonneg
  lift last to Nat using nonnegLast
  exact ⟨first, last, rfl⟩

theorem record_injective : BlockRange.record.Injective := by
  rintro ⟨first, last⟩ ⟨other, otherLast⟩ same
  have fields := congrArg Record.fields same
  simp only [record, List.cons.injEq, Prod.mk.injEq, Value.int.injEq, true_and, and_true] at fields
  obtain ⟨rfl, rfl⟩ := fields
  rfl

theorem rangeRpc_record (first last : Nat) : (BlockRange.mk first last).record.rangeRpc =
    .ok (.list [.str (writeQuantity first), .str (writeQuantity last)]) := by
  have beginning : (BlockRange.mk first last).record.get "beginning" = .int first := rfl
  have ending : (BlockRange.mk first last).record.get "end" = .int last := rfl
  have bare : (BlockRange.mk first last).record.extras = [] := rfl
  simp only [Record.rangeRpc, Record.call_eq_ok bare, beginning, ending, Value.toQuantity_natCast]
  rfl

/-! Pairs -/

/-- The two items of a list or tuple that has no others. -/
inductive IsPair : (value first second : Value) → Prop where
  | list (first second : Value) : IsPair (.list [first, second]) first second
  | tuple (first second : Value) : IsPair (.tuple [first, second]) first second

/-- In lower case the value is a quantity, as it is written, of at most 256 bits. -/
def IsQuantity (value : Value) : Prop :=
  ∃ s n, value = .str s ∧ Spells s (writeQuantity n) ∧ n < 2 ^ 256

variable {value a b : Value}

theorem isQuantity_iff_read : IsQuantity a ↔ ∃ n, readQuantity a = .ok n := by
  simp only [readQuantity_eq_ok_iff]
  exact exists_comm

theorem isPair_of_pair (found : BlockRange.pair value = .ok (a, b)) : IsPair value a b := by
  unfold BlockRange.pair at found
  split at found
  · cases found
    exact .list a b
  · cases found
    exact .tuple a b
  · contradiction
  · contradiction
  · contradiction

/-- What is no pair is refused as a whole, not for one of its items. -/
theorem field_of_pair {error : ParseError} (refused : BlockRange.pair value = .error error) :
    error.field = none := by
  unfold BlockRange.pair at refused
  split at refused <;> cases refused <;> rfl

/-! Reading a range -/

variable {σ : Type}

/-- The items of a pair are read one after the other. -/
theorem inputsOfWire_of_pair (pair : IsPair value a b) : inputsOfWire value = do
    let first ← ParseError.ofHex (some "beginning") (readQuantity a)
    let last ← ParseError.ofHex (some "end") (readQuantity b)
    return [("beginning", .int first), ("end", .int last)] := by
  cases pair <;> rfl

theorem answers_ofWire {first last : Nat} (pair : IsPair value a b)
    (read : readQuantity a = .ok first) (readLast : readQuantity b = .ok last) :
    Answers (ofWire value : Operation σ BlockRange) (.ok ⟨first, last⟩) := by
  have inputs : inputsOfWire value = .ok [("beginning", .int first), ("end", .int last)] := by
    rw [inputsOfWire_of_pair pair, read, readLast]
    rfl
  simp only [ofWire, inputs, Operation.parsed]
  refine (answers_pure _).bind ?_
  rw [check_of_natural]
  exact answers_ofExcept _

/-- The value is refused, for the given field or as a whole. -/
def Refused (σ : Type) (value : Value) (field : Option String) : Prop :=
  ∃ error : ParseError, error.field = field ∧
    Answers (ofWire value : Operation σ BlockRange) (.error (.parse error))

theorem refused_of_error {error : ParseError} (unread : inputsOfWire value = .error error) :
    Refused σ value error.field := by
  refine ⟨error, rfl, ?_⟩
  have own : raised (.parse error) = .parse error := raised_of_isSome (shown_of_inputsOfWire unread)
  rw [← own]
  simp only [ofWire, unread]
  exact (answers_parsed .wire (.error error)).bind_error

theorem refused_first (pair : IsPair value a b) (bad : ¬IsQuantity a) :
    Refused σ value (some "beginning") := by
  cases read : readQuantity a with
  | ok first => exact absurd (isQuantity_iff_read.mpr ⟨first, read⟩) bad
  | error fault =>
    have unread : inputsOfWire value = .error ⟨.hex fault, some "beginning"⟩ := by
      rw [inputsOfWire_of_pair pair, read]
      rfl
    exact refused_of_error unread

theorem refused_last (pair : IsPair value a b) (good : IsQuantity a) (bad : ¬IsQuantity b) :
    Refused σ value (some "end") := by
  obtain ⟨first, read⟩ := isQuantity_iff_read.mp good
  cases readLast : readQuantity b with
  | ok last => exact absurd (isQuantity_iff_read.mpr ⟨last, readLast⟩) bad
  | error fault =>
    have unread : inputsOfWire value = .error ⟨.hex fault, some "end"⟩ := by
      rw [inputsOfWire_of_pair pair, read, readLast]
      rfl
    exact refused_of_error unread

theorem refused_unpaired (unpaired : ∀ a b, ¬IsPair value a b) : Refused σ value none := by
  cases found : BlockRange.pair value with
  | ok items => exact absurd (isPair_of_pair found) (unpaired _ _)
  | error error =>
    have unread : inputsOfWire value = .error error := by
      simp only [inputsOfWire, found]
      rfl
    rw [← field_of_pair found]
    exact refused_of_error unread

/-! What is written and what is read -/

theorem isQuantity_writeQuantity_iff {n : Nat} :
    IsQuantity (.str (writeQuantity n)) ↔ n < 2 ^ 256 := by
  rw [isQuantity_iff_read, readQuantity_writeQuantity]
  split_ifs with small
  · exact iff_of_true ⟨n, rfl⟩ small
  · exact iff_of_false (by simp only [exists_false, not_false_eq_true]) small

/-- The text in lower case. -/
def lowered (s : String) : String := String.ofList (s.toList.map Char.toLower)

theorem lowered_eq_of_spells {s form : String} (spells : Spells s form) : lowered s = form := by
  rw [lowered, spells, String.ofList_toList]

/-- A pair of quantities is read as a range that is written as the same two in lower case. -/
theorem exists_range_of_quantities (pair : IsPair value a b) (good : IsQuantity a)
    (goodLast : IsQuantity b) : ∃ s t range, a = .str s ∧ b = .str t ∧
      Answers (ofWire value : Operation σ BlockRange) (.ok range) ∧
      range.record.rangeRpc = .ok (.list [.str (lowered s), .str (lowered t)]) := by
  obtain ⟨s, first, rfl, spelled, small⟩ := good
  obtain ⟨t, last, rfl, spelledLast, smallLast⟩ := goodLast
  refine ⟨s, t, ⟨first, last⟩, rfl, rfl, ?_, ?_⟩
  · exact answers_ofWire pair (readQuantity_eq_ok_iff.mpr ⟨s, rfl, spelled, small⟩)
      (readQuantity_eq_ok_iff.mpr ⟨t, rfl, spelledLast, smallLast⟩)
  · rw [rangeRpc_record, lowered_eq_of_spells spelled, lowered_eq_of_spells spelledLast]

theorem quantities_of_read {state : σ} {range : BlockRange}
    (read : (ofWire value state).result = .ok range) :
    ∃ a b, IsPair value a b ∧ IsQuantity a ∧ IsQuantity b := by
  have accepted : ∀ field, ¬Refused σ value field := by
    rintro field ⟨error, _, refused⟩
    rw [refused state] at read
    contradiction
  by_cases paired : ∃ a b, IsPair value a b
  · obtain ⟨a, b, pair⟩ := paired
    have good : IsQuantity a := by
      by_contra bad
      exact accepted _ (refused_first pair bad)
    have goodLast : IsQuantity b := by
      by_contra bad
      exact accepted _ (refused_last pair good bad)
    exact ⟨a, b, pair, good, goodLast⟩
  · exact absurd (refused_unpaired fun a b pair => paired ⟨a, b, pair⟩) (accepted none)

/-- A range that is made reads back from what it is written as, up to 256 bits, and is refused for
its first bound beyond that. Any value is read exactly if it is a pair of quantities, and written
again as the list of both in lower case; otherwise it is refused as a whole or for its first bad
item. -/
theorem ofWire_rangeRpc (state : σ) :
    (∀ record : Record, record.Made .blockRange → ∃ (range : BlockRange) (wire : Value),
      record = range.record ∧ record.rangeRpc = .ok wire ∧
      (range.first < 2 ^ 256 → range.last < 2 ^ 256 → (ofWire wire state).result = .ok range) ∧
      (2 ^ 256 ≤ range.first → Refused σ wire (some "beginning")) ∧
      (range.first < 2 ^ 256 → 2 ^ 256 ≤ range.last → Refused σ wire (some "end"))) ∧
    ∀ value,
      ((∃ range, (ofWire value state).result = .ok range) ↔
        ∃ a b, IsPair value a b ∧ IsQuantity a ∧ IsQuantity b) ∧
      (∀ range s t, (ofWire value state).result = .ok range → IsPair value (.str s) (.str t) →
        range.record.rangeRpc = .ok (.list [.str (lowered s), .str (lowered t)])) ∧
      ((∀ a b, ¬IsPair value a b) → Refused σ value none) ∧
      ∀ a b, IsPair value a b → (¬IsQuantity a → Refused σ value (some "beginning")) ∧
        (IsQuantity a → ¬IsQuantity b → Refused σ value (some "end")) := by
  constructor
  · intro record made
    obtain ⟨first, last, rfl⟩ := exists_of_made made
    have pair := IsPair.list (.str (writeQuantity first)) (.str (writeQuantity last))
    have quantity {n : Nat} := @isQuantity_writeQuantity_iff n
    refine ⟨_, _, rfl, rangeRpc_record first last, ?_, ?_, ?_⟩
    · intro small smallLast
      have read : ∀ n : Nat, (n : Int) < 2 ^ 256 → readQuantity (.str (writeQuantity n)) = .ok n :=
        fun n small => (readQuantity_writeQuantity n).trans (if_pos (by omega))
      exact answers_ofWire pair (read first small) (read last smallLast) state
    · intro (large : (2 : Int) ^ 256 ≤ first)
      exact refused_first pair (mt quantity.mp (by omega))
    · intro (small : (first : Int) < 2 ^ 256) (large : (2 : Int) ^ 256 ≤ last)
      exact refused_last pair (quantity.mpr (by omega)) (mt quantity.mp (by omega))
  · intro value
    refine ⟨⟨fun ⟨range, read⟩ => quantities_of_read read, ?_⟩, ?_, refused_unpaired,
      fun a b pair => ⟨refused_first pair, refused_last pair⟩⟩
    · rintro ⟨a, b, pair, good, goodLast⟩
      obtain ⟨_, _, range, _, _, read, _⟩ := exists_range_of_quantities pair good goodLast
      exact ⟨range, read state⟩
    · intro range s t read texts
      obtain ⟨a, b, pair, good, goodLast⟩ := quantities_of_read read
      obtain ⟨s', t', other, rfl, rfl, again, written⟩ :=
        exists_range_of_quantities pair good goodLast
      obtain rfl := Except.ok.inj ((again state).symm.trans read)
      cases texts <;> cases pair <;> exact written

/-- The larger bound is the first that does not fit, the smaller one the last that does. -/
theorem ofWire_rangeRpc_edge :
    ∃ wire, (BlockRange.mk (2 ^ 256 - 1) (2 ^ 256)).record.rangeRpc = .ok wire ∧
      Refused Unit wire (some "end") := by
  have made : (BlockRange.mk (2 ^ 256 - 1) (2 ^ 256)).record.Made .blockRange :=
    made_of_natural (2 ^ 256 - 1) (2 ^ 256)
  obtain ⟨range, wire, same, written, _, _, refused⟩ := (ofWire_rangeRpc ()).1 _ made
  obtain rfl := record_injective same
  exact ⟨wire, written, refused (by norm_num) (by norm_num)⟩

/-- A tuple is not given back: the two quantities that it holds are written as a list. -/
theorem rangeRpc_ne_tuple : ∃ range,
    (ofWire (.tuple [.str "0x1", .str "0xA"]) ()).result = .ok range ∧
      range.record.rangeRpc ≠ .ok (.tuple [.str "0x1", .str "0xa"]) := by
  have digit : ∀ s n, n < 16 → s.toList.map Char.toLower = ['0', 'x', Hex.digit n] →
      IsQuantity (.str s) := by
    intro s n small lowered
    refine ⟨s, n, rfl, ?_, by omega⟩
    rw [Spells, toList_writeQuantity, digits, if_pos small]
    exact lowered
  obtain ⟨_, _, range, _, _, read, written⟩ := exists_range_of_quantities
    (.tuple (.str "0x1") (.str "0xA")) (digit "0x1" 1 (by decide) rfl) (digit "0xA" 10 (by decide) rfl)
  refine ⟨range, read (), ?_⟩
  rw [written]
  simp

end LayerTwo.BlockRange
