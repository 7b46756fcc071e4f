import LayerTwo.Proofs.Payload.FirstFault

/-! Payloads that say the same decode alike. A payload is read through the table of rows only, and
its hex digits in either case. So neither the order of the keys, nor a key that no row has, nor a
null for a key that may be left out, nor the case of hex digits shows in the outcome: it is one block
for both payloads, or an error about one field. -/
namespace LayerTwo.Block

open Operation

/-! Payloads that say the same -/

/-- Two values are equal, or texts that differ in the case of their letters. -/
inductive Recased : Value → Value → Prop where
  | refl (value : Value) : Recased value value
  | text {s t : String} (same : s.toList.map Char.toLower = t.toList.map Char.toLower) :
      Recased (.str s) (.str t)

/-- Two values of a row are equal but for the case of the hex digits that its codec reads. -/
inductive Codec.Alike : Codec → Value → Value → Prop where
  | refl (codec : Codec) (value : Value) : Alike codec value value
  | data {size : Option Int} {v w : Value} (recased : Recased v w) : Alike (.data size) v w
  | quantity {v w : Value} (recased : Recased v w) : Alike .quantity v w
  | hashes {vs ws : List Value} (each : List.Forall₂ Recased vs ws) :
      Alike .hashes (.list vs) (.list ws)
  | transactions {vs ws : List Value} (each : List.Forall₂ Recased vs ws) :
      Alike .transactions (.list vs) (.list ws)

/-- Two payloads give alike values to every row, or none. A null counts as none; where a key stands
and which keys there are besides those of the rows does not count. -/
def AlikePayloads (a b : Entries) : Prop :=
  ∀ row ∈ rows, Option.Rel row.codec.Alike (given? a row.key) (given? b row.key)

variable {v w field : Value} {codec : Codec}

/-! Alike values stand for the same -/

/-- Texts that differ in case only are spellings of the same forms. -/
theorem Recased.exists_spells {form : String} {holds : Prop} (recased : Recased v w) :
    (∃ s, v = .str s ∧ Hex.Spells s form ∧ holds) → ∃ t, w = .str t ∧ Hex.Spells t form ∧ holds := by
  cases recased with
  | refl => exact id
  | @text s t same =>
    rintro ⟨_, given, spelled, rest⟩
    cases given
    exact ⟨t, rfl, same.symm.trans spelled, rest⟩

theorem Recased.dataStands {size : Option Int} (recased : Recased v w)
    (stands : DataStands size v field) : DataStands size w field := by
  obtain ⟨s, octets, given, spelled, rest⟩ := stands
  obtain ⟨t, given, spelled, rest⟩ := recased.exists_spells ⟨s, given, spelled, rest⟩
  exact ⟨t, octets, given, spelled, rest⟩

theorem Recased.transactionStands (recased : Recased v w) (stands : TransactionStands v field) :
    TransactionStands w field := by
  rcases stands with ⟨entries, rfl, rfl⟩ | hash
  · cases recased
    exact Or.inl ⟨entries, rfl, rfl⟩
  · exact Or.inr (recased.dataStands hash)

theorem Recased.quantityStands (recased : Recased v w) (stands : Codec.quantity.Stands v field) :
    Codec.quantity.Stands w field := by
  obtain ⟨s, n, given, spelled, rest⟩ := stands
  obtain ⟨t, given, spelled, rest⟩ := recased.exists_spells ⟨s, given, spelled, rest⟩
  exact ⟨t, n, given, spelled, rest⟩

/-! Alike values are read alike -/

/-- Both results are one value, or errors that are related. -/
inductive Agree {ε α : Type} (related : ε → ε → Prop) : Except ε α → Except ε α → Prop where
  | ok (a : α) : Agree related (.ok a) (.ok a)
  | error {left right : ε} (errors : related left right) : Agree related (.error left) (.error right)

namespace Agree

variable {ε α β : Type} {related : ε → ε → Prop} {first other : Except ε α}

theorem refl (reflexive : ∀ e, related e e) (result : Except ε α) : Agree related result result := by
  cases result with
  | ok a => exact .ok a
  | error e => exact .error (reflexive e)

theorem bind {next again : α → Except ε β} (agree : Agree related first other)
    (continued : ∀ a, Agree related (next a) (again a)) :
    Agree related (first >>= next) (other >>= again) := by
  cases agree with
  | ok a => exact continued a
  | error errors => exact .error errors

theorem map (f : α → β) (agree : Agree related first other) :
    Agree related (first.map f) (other.map f) := by
  cases agree with
  | ok a => exact .ok (f a)
  | error errors => exact .error errors

theorem mapM {γ : Type} {read : γ → Except ε α} {items others : List γ}
    (each : List.Forall₂ (fun v w => Agree related (read v) (read w)) items others) :
    Agree related (items.mapM read) (others.mapM read) := by
  induction each with
  | nil => exact .ok []
  | cons head _ ih =>
    simp only [List.mapM_cons]
    refine head.bind fun first => ?_
    exact ih.bind fun rest => .ok _

end Agree

/-- Two faults, where either both can be shown or none. -/
def SameShown (first other : Payload.Fault) : Prop :=
  ∀ field, (ParseError.message? ⟨first, field⟩).isSome = (ParseError.message? ⟨other, field⟩).isSome

/-- Of texts that differ in case either all or none are read, and a fault with a text can be shown. -/
theorem Recased.agree {read : Value → Except Payload.Fault Value} {stands : Value → Value → Prop}
    (recased : Recased v w) (item : ∀ raw field, read raw = .ok field ↔ stands raw field)
    (kept : ∀ {v w field}, Recased v w → stands v field → stands w field)
    (shown : ∀ s fault, read (.str s) = .error fault → fault.Shown) :
    Agree SameShown (read v) (read w) := by
  have same {v w field : Value} (recased : Recased v w) (ok : read v = .ok field) :
      read w = .ok field :=
    (item _ _).mpr (kept recased ((item _ _).mp ok))
  cases recased with
  | refl => exact .refl (fun _ _ => rfl) _
  | @text s t lowered =>
    cases first : read (.str s) with
    | ok field =>
      rw [same (.text lowered) first]
      exact .ok field
    | error fault =>
      cases second : read (.str t) with
      | ok field =>
        rw [same (.text lowered.symm) second] at first
        contradiction
      | error other =>
        refine .error fun field => ?_
        rw [shown s fault first field, shown t other second field]

theorem Codec.Alike.agree (alike : codec.Alike v w) (sized : codec.Sized) :
    Agree SameShown (codec.read v) (codec.read w) := by
  have text {s : String} : (Value.str s).Short := Value.short_str s
  cases alike with
  | refl => exact .refl (fun _ _ => rfl) _
  | data recased =>
    exact recased.agree (fun _ _ => read_eq_ok_iff) Recased.dataStands
      fun _ _ refused => shown_of_read sized refused text
  | quantity recased =>
    exact recased.agree (fun _ _ => read_eq_ok_iff) Recased.quantityStands
      fun _ _ refused => shown_of_read sized refused text
  | hashes each =>
    refine .map Value.tuple (.mapM (each.imp fun _ _ recased => ?_))
    exact recased.agree (fun _ _ => readHash_eq_ok_iff) Recased.dataStands
      fun _ _ refused => shown_of_readHash refused text
  | transactions each =>
    refine .map Value.tuple (.mapM (each.imp fun _ _ recased => ?_))
    exact recased.agree (fun _ _ => readTransaction_eq_ok_iff) Recased.transactionStands
      fun _ _ refused => shown_of_readTransaction refused text

/-! Rows of alike payloads -/

/-- Two errors about one field, where either both can be shown or none. -/
structure SameField (left right : ParseError) : Prop where
  field : ∃ key, left.field = some key ∧ right.field = some key
  shown : left.message?.isSome = right.message?.isSome

variable {a b : Entries}

theorem Row.agree_read {row : Row} (sized : row.codec.Sized)
    (alike : Option.Rel row.codec.Alike (given? a row.key) (given? b row.key)) :
    Agree SameField (row.read a) (row.read b) := by
  rw [read_eq, read_eq]
  generalize given? a row.key = left at alike
  generalize given? b row.key = right at alike
  cases alike with
  | none =>
    cases row.presence with
    | needed => exact .error ⟨⟨row.key, rfl, rfl⟩, rfl⟩
    | maybe => exact .ok none
  | @some v w alike =>
    have agree := alike.agree sized
    dsimp only
    generalize row.codec.read v = first at agree
    generalize row.codec.read w = other at agree
    cases agree with
    | ok field => exact .ok _
    | error shown => exact .error ⟨⟨row.key, rfl, rfl⟩, shown _⟩

theorem agree_readRows {rows : List Row} (sized : ∀ row ∈ rows, row.codec.Sized)
    (alike : ∀ row ∈ rows, Option.Rel row.codec.Alike (given? a row.key) (given? b row.key)) :
    Agree SameField (readRows a rows) (readRows b rows) := by
  induction rows with
  | nil => exact .ok []
  | cons row rest ih =>
    obtain ⟨sizedFirst, sizedOthers⟩ := List.forall_mem_cons.mp sized
    obtain ⟨first, others⟩ := List.forall_mem_cons.mp alike
    refine (Row.agree_read sizedFirst first).bind fun field => ?_
    exact (ih sizedOthers others).bind fun fields => .ok _

/-! Alike payloads -/

variable {σ τ : Type}

/-- Payloads that say the same become one block, or both are refused for one field. If an integer in
what they get wrong is too long to be shown, it is so in both, and both fail for that. -/
theorem ofWire_alike (alike : AlikePayloads a b) (state : σ) (other : τ) :
    (∃ block, (ofWire (.dict a) state).result = .ok block ∧
      (ofWire (.dict b) other).result = .ok block) ∨
    (∃ left right key, (ofWire (.dict a) state).result = .error (.parse left) ∧
      (ofWire (.dict b) other).result = .error (.parse right) ∧
      left.field = some key ∧ right.field = some key) ∨
    ¬(Value.dict a).Short ∧ ¬(Value.dict b).Short ∧
      (ofWire (.dict a) state).result = .error (.badValue .unprintable) ∧
      (ofWire (.dict b) other).result = .error (.badValue .unprintable) := by
  have agree := agree_readRows sized_of_mem alike
  generalize first : readRows a rows = left at agree
  generalize second : readRows b rows = right at agree
  cases agree with
  | ok inputs =>
    obtain ⟨block, checked, _⟩ := check_of_leaves (leaves_lookup first (by decide))
    exact Or.inl ⟨block, answers_ofWire_of_checked first checked state,
      answers_ofWire_of_checked second checked other⟩
  | @error left right errors =>
    have unread : inputsOfWire (.dict a) = .error left := first
    have unreadAgain : inputsOfWire (.dict b) = .error right := second
    obtain ⟨⟨key, named, again⟩, shown⟩ := errors
    rw [answers_ofWire_of_error unread state, answers_ofWire_of_error unreadAgain other]
    refine Or.inr ?_
    cases message : left.message? with
    | some text =>
      have seen : left.message?.isSome = true := Option.isSome_of_eq_some message
      have own : raised (.parse left) = .parse left := raised_of_isSome seen
      have ownAgain : raised (.parse right) = .parse right :=
        raised_of_isSome (shown.symm.trans seen)
      rw [own, ownAgain]
      exact Or.inl ⟨left, right, key, rfl, rfl, named, again⟩
    | none =>
      have hidden : right.message? = none := by
        rw [← Option.not_isSome_iff_eq_none, ← shown, message]
        exact Bool.false_ne_true
      have unshown : raised (.parse left) = .badValue .unprintable := raised_of_eq_none message
      have unshownAgain : raised (.parse right) = .badValue .unprintable := raised_of_eq_none hidden
      rw [unshown, unshownAgain]
      exact Or.inr ⟨not_of_eq_none (shown_of_inputsOfWire unread) message,
        not_of_eq_none (shown_of_inputsOfWire unreadAgain) hidden, rfl, rfl⟩

/-- A payload with an integer where a hash belongs. -/
def numbered (n : Int) : Entries := [("parentHash", .int n)]

/-- The message about the hash would show the integer. -/
theorem answers_numbered {n : Int} (long : ¬Decimal.Short n) :
    Answers (ofWire (.dict (numbered n)) : Operation σ Block) (.error (.badValue .unprintable)) := by
  have unread : inputsOfWire (.dict (numbered n)) =
      .error ⟨.hex (.notData (.int n)), some "parentHash"⟩ := rfl
  have hidden : Failure.message? (.parse ⟨.hex (.notData (.int n)), some "parentHash"⟩) = none := by
    rw [← Option.not_isSome_iff_eq_none, Failure.message?, ParseError.message?,
      Hex.isSome_message?_notData_iff, Value.short_int_iff]
    exact long
  rw [← raised_of_eq_none hidden]
  exact answers_ofWire_of_error unread

/-- Payloads that say the same can be refused without a field. -/
theorem exists_alike_without_field : ¬∀ a b : Entries, AlikePayloads a b →
    (∃ block, (ofWire (.dict a) ()).result = .ok block ∧
      (ofWire (.dict b) ()).result = .ok block) ∨
    ∃ left right key, (ofWire (.dict a) ()).result = .error (.parse left) ∧
      (ofWire (.dict b) ()).result = .error (.parse right) ∧
      left.field = some key ∧ right.field = some key := by
  intro claimed
  have alike (payload : Entries) : AlikePayloads payload payload := by
    intro row _
    cases given? payload row.key with
    | none => exact .none
    | some raw => exact .some (.refl _ raw)
  have failed := answers_numbered (σ := Unit) Decimal.not_short_pow ()
  rcases claimed _ _ (alike _) with ⟨block, made, _⟩ | ⟨left, right, key, refused, _⟩
  · have both := failed.symm.trans made
    simp only [reduceCtorEq] at both
  · have both := failed.symm.trans refused
    simp only [reduceCtorEq, Except.error.injEq] at both

/-- The text in upper case, its mark included. -/
def raised (s : String) : String := String.ofList (s.toList.map Char.toUpper)

theorem recased_raised (s : String) : Recased (.str s) (.str (raised s)) := by
  refine .text ?_
  simp only [raised, String.toList_ofList, List.map_map, Function.comp_def,
    Char.toLower_toUpper_eq_toLower]

/-- A payload with the rows that it needs, an array of hashes among them. -/
def sparse (spell : String → String) : Entries := [
  ("parentHash", .str (spell (Hex.writeData (List.replicate 32 0xAB)))),
  ("sha3Uncles", .str (spell (Hex.writeData (List.replicate 32 0xAB)))),
  ("stateRoot", .str (spell (Hex.writeData (List.replicate 32 0xAB)))),
  ("transactionsRoot", .str (spell (Hex.writeData (List.replicate 32 0xAB)))),
  ("receiptsRoot", .str (spell (Hex.writeData (List.replicate 32 0xAB)))),
  ("logsBloom", .str (spell (Hex.writeData (List.replicate 256 0xAB)))),
  ("difficulty", .str (spell (Hex.writeQuantity 0xAB))),
  ("number", .str (spell (Hex.writeQuantity 0xAB))),
  ("gasLimit", .str (spell (Hex.writeQuantity 0xAB))),
  ("gasUsed", .str (spell (Hex.writeQuantity 0xAB))),
  ("timestamp", .str (spell (Hex.writeQuantity 0xAB))),
  ("extraData", .str (spell (Hex.writeData []))),
  ("uncles", .list [.str (spell (Hex.writeData (List.replicate 32 0xAB)))])]

theorem alikePayloads_sparse :
    AlikePayloads (sparse id) (("size", .null) :: ("epoch", .int 1) :: (sparse raised).reverse) := by
  have hex := recased_raised
  simp only [AlikePayloads, rows, List.forall_mem_cons]
  exact ⟨.some (.data (hex _)), .some (.data (hex _)), .none, .some (.data (hex _)),
    .some (.data (hex _)), .some (.data (hex _)), .some (.data (hex _)), .some (.quantity (hex _)),
    .some (.quantity (hex _)), .some (.quantity (hex _)), .some (.quantity (hex _)),
    .some (.quantity (hex _)), .some (.data (hex _)), .none, .none, .none,
    .some (.hashes (.cons (hex _) .nil)), .none, .none, .none, .none, .none, .none, .none,
    List.forall_mem_nil _⟩

theorem Row.accepts_of_given {row : Row} {payload : Entries}
    (given : given? payload row.key = some v) (stands : row.codec.Stands v field) :
    row.Accepts payload := by
  rw [Accepts, given]
  exact ⟨field, stands⟩

theorem Row.accepts_of_absent {row : Row} {payload : Entries}
    (absent : given? payload row.key = none) (maybe : row.presence = .maybe) :
    row.Accepts payload := by
  rw [Accepts, absent]
  exact maybe

theorem accepts_sparse : ∀ row ∈ rows, row.Accepts (sparse id) := by
  have data : ∀ size octets, (∀ expected, size = some expected → expected = octets.length) →
      DataStands size (.str (Hex.writeData octets)) (.bytes octets) := by
    intro size octets sized
    obtain ⟨s, given, spelled, _⟩ := Hex.readData_eq_ok_iff.mp (Hex.readData_writeData octets)
    exact ⟨s, octets, given, spelled, sized, rfl⟩
  have repeated : ∀ count byte, DataStands (some (count : Nat))
      (.str (Hex.writeData (List.replicate count byte))) (.bytes (List.replicate count byte)) := by
    intro count byte
    refine data _ _ fun expected sized => ?_
    rw [List.length_replicate]
    exact (Option.some.inj sized).symm
  have hash := repeated 32 0xAB
  have quantity : Codec.quantity.Stands (.str (Hex.writeQuantity 0xAB)) (.int 0xAB) := by
    obtain ⟨s, given, spelled, _⟩ := Hex.readQuantity_eq_ok_iff.mp
      ((Hex.readQuantity_writeQuantity 0xAB).trans (if_pos (by norm_num)))
    exact ⟨s, 0xAB, given, spelled, by norm_num, rfl⟩
  have given {row : Row} {raw field : Value} :=
    @Row.accepts_of_given raw field row (sparse id)
  have absent {row : Row} := @Row.accepts_of_absent row (sparse id)
  simp only [rows, List.forall_mem_cons]
  exact ⟨given rfl hash, given rfl hash, absent rfl rfl, given rfl hash, given rfl hash,
    given rfl hash, given rfl (repeated 256 0xAB), given rfl quantity, given rfl quantity,
    given rfl quantity, given rfl quantity, given rfl quantity, given rfl (data none [] (by simp)),
    absent rfl rfl, absent rfl rfl, absent rfl rfl, given rfl ⟨_, _, rfl, .cons hash .nil, rfl⟩,
    absent rfl rfl, absent rfl rfl, absent rfl rfl, absent rfl rfl, absent rfl rfl, absent rfl rfl,
    absent rfl rfl, List.forall_mem_nil _⟩

/-- The rows in another order and in upper case, with a null and a key beside them. -/
theorem ofWire_alike_sparse : ∃ block, (ofWire (.dict (sparse id)) ()).result = .ok block ∧
    (ofWire (.dict (("size", .null) :: ("epoch", .int 1) :: (sparse raised).reverse)) ()).result =
      .ok block := by
  obtain ⟨inputs, read⟩ := readRows_accepts_iff.mpr accepts_sparse
  obtain ⟨block, made, _⟩ := answers_ofWire_of_read read
  obtain accepted | ⟨_, _, _, refused, _⟩ | ⟨_, _, refused, _⟩ := ofWire_alike alikePayloads_sparse () ()
  · exact accepted
  · have both := (made ()).symm.trans refused
    simp only [reduceCtorEq] at both
  · have both := (made ()).symm.trans refused
    simp only [reduceCtorEq] at both

end LayerTwo.Block
