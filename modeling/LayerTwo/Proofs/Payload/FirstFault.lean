import LayerTwo.Proofs.Payload.Block

/-! Which fault of a payload is reported. The rows of a block are read in the order of the table, and
the first one that the payload gets wrong decides the error alone: its key is the field, and nothing
that the payload says about later rows changes the error. In an array of hashes or transactions the
first bad item speaks for the array. -/
namespace LayerTwo.Block

open Operation

variable {payload other : Entries} {row : Row} {before after : List Row} {error : ParseError}

/-! One row -/

theorem Row.accepts_iff_read : row.Accepts payload ↔ ∃ result, row.read payload = .ok result := by
  simp only [accepts_iff, read_eq_ok_iff]
  constructor
  · rintro ⟨field, leaves⟩
    exact ⟨_, field, leaves, rfl⟩
  · rintro ⟨_, field, leaves, _⟩
    exact ⟨field, leaves⟩

/-- A row sees of a payload what is given under its key. -/
theorem Row.read_congr (same : given? other row.key = given? payload row.key) :
    row.read other = row.read payload := by
  rw [read_eq, read_eq, same]

theorem Row.accepts_congr (same : given? other row.key = given? payload row.key) :
    row.Accepts other ↔ row.Accepts payload := by
  rw [Accepts, Accepts, same]

/-- A row is refused for being left out, or for what its codec finds wrong. -/
theorem Row.read_eq_error_iff : row.read payload = .error error ↔
    (row.presence = .needed ∧ given? payload row.key = none ∧ error = ⟨.missing, some row.key⟩) ∨
      ∃ raw fault, given? payload row.key = some raw ∧ row.codec.read raw = .error fault ∧
        error = ⟨fault, some row.key⟩ := by
  rw [read_eq]
  cases given? payload row.key with
  | none => cases row.presence <;> simp [eq_comm]
  | some raw =>
    cases read : row.codec.read raw with
    | ok value => simp [read]
    | error fault => simp [read, eq_comm]

/-! The table -/

/-- The payload is right about the rows before this one, and wrong about this one. -/
structure FirstFault (payload : Entries) (before : List Row) (row : Row) (after : List Row) :
    Prop where
  table : rows = before ++ row :: after
  earlier : ∀ accepted ∈ before, accepted.Accepts payload
  wrong : ¬row.Accepts payload

theorem readRows_cons_eq_error_iff {rest : List Row} :
    readRows payload (row :: rest) = .error error ↔ row.read payload = .error error ∨
      row.Accepts payload ∧ readRows payload rest = .error error := by
  simp only [readRows, Result.bind_eq_error_iff, Row.accepts_iff_read, pure, Except.pure,
    reduceCtorEq, and_false, exists_false, or_false, exists_and_right]

/-- Rows that fail do so at the first that is wrong. -/
theorem exists_of_readRows_eq_error {rows : List Row} (failed : readRows payload rows = .error error) :
    ∃ before row after, rows = before ++ row :: after ∧
      (∀ accepted ∈ before, accepted.Accepts payload) ∧ row.read payload = .error error := by
  induction rows with
  | nil => contradiction
  | cons first rest ih =>
    rcases readRows_cons_eq_error_iff.mp failed with refused | ⟨accepted, failed⟩
    · exact ⟨[], first, rest, rfl, List.forall_mem_nil _, refused⟩
    · obtain ⟨before, row, after, rfl, earlier, refused⟩ := ih failed
      exact ⟨first :: before, row, after, rfl, List.forall_mem_cons.mpr ⟨accepted, earlier⟩, refused⟩

theorem readRows_eq_error (earlier : ∀ accepted ∈ before, accepted.Accepts payload)
    (refused : row.read payload = .error error) :
    readRows payload (before ++ row :: after) = .error error := by
  induction before with
  | nil => exact readRows_cons_eq_error_iff.mpr (Or.inl refused)
  | cons first rest ih =>
    obtain ⟨accepted, earlier⟩ := List.forall_mem_cons.mp earlier
    exact readRows_cons_eq_error_iff.mpr (Or.inr ⟨accepted, ih earlier⟩)

/-- What a payload gives after the first wrong row does not change the error. -/
theorem readRows_eq_error_of_same (earlier : ∀ accepted ∈ before, accepted.Accepts payload)
    (refused : row.read payload = .error error)
    (same : ∀ seen ∈ before ++ [row], given? other seen.key = given? payload seen.key) :
    readRows other (before ++ row :: after) = .error error := by
  obtain ⟨seen, here⟩ := List.forall_mem_append.mp same
  refine readRows_eq_error (fun accepted member => ?_) ?_
  · exact (Row.accepts_congr (seen accepted member)).mpr (earlier accepted member)
  · exact (Row.read_congr (here row List.mem_cons_self)).trans refused

/-! What the error says -/

/-- The items of an array one by one. -/
inductive Codec.Items : Codec → (Value → Value → Prop) → Prop where
  | hashes : Items .hashes (DataStands (some 32))
  | transactions : Items .transactions TransactionStands

/-- The first item that stands for nothing. -/
def FirstBad (stands : Value → Value → Prop) (items : List Value) (bad : Value) : Prop :=
  ∃ good rest, items = good ++ bad :: rest ∧ (∀ item ∈ good, ∃ field, stands item field) ∧
    ¬∃ field, stands bad field

/-- The error names the key of the row. It says that the field is missing exactly if that is so, and
of an array it says what is wrong with the first bad item as a hash. -/
structure Row.Blamed (row : Row) (payload : Entries) (error : ParseError) : Prop where
  field : error.field = some row.key
  missing : error.message? = some ("Missing required field '" ++ row.key ++ "' for block") ↔
    row.presence = .needed ∧ given? payload row.key = none
  item : ∀ stands items, row.codec.Items stands → given? payload row.key = some (.list items) →
    ∃ bad fault, FirstBad stands items bad ∧ Hex.readData (some 32) bad = .error fault ∧
      error.message? = fault.message? (some row.key)

theorem readArray_eq_error {read : Value → Except Payload.Fault Value} {items : List Value}
    {fault : Payload.Fault} (refused : readArray read (.list items) = .error fault) :
    ∃ good bad rest, items = good ++ bad :: rest ∧
      (∀ item ∈ good, ∃ result, read item = .ok result) ∧ read bad = .error fault :=
  Result.mapM_eq_error (Result.map_eq_error_iff.mp refused)

theorem readHash_eq_error {raw : Value} {fault : Payload.Fault}
    (refused : readHash raw = .error fault) :
    ∃ cause, Hex.readData (some 32) raw = .error cause ∧ fault = .hex cause := by
  unfold readHash at refused
  split at refused
  · contradiction
  · cases refused
    exact ⟨_, by assumption, rfl⟩

/-- What is no transaction is no object, so it was read as a hash. -/
theorem readTransaction_eq_error {raw : Value} {fault : Payload.Fault}
    (refused : readTransaction raw = .error fault) : readHash raw = .error fault := by
  unfold readTransaction at refused
  split at refused
  · contradiction
  · exact refused

/-- An array is refused with the fault of its first bad item, if items are refused as hashes. -/
theorem readArray_firstBad {read : Value → Except Payload.Fault Value}
    {stands : Value → Value → Prop} {items : List Value} {fault : Payload.Fault}
    (item : ∀ raw field, read raw = .ok field ↔ stands raw field)
    (hashed : ∀ raw, read raw = .error fault → readHash raw = .error fault)
    (refused : readArray read (.list items) = .error fault) : ∃ bad cause,
      FirstBad stands items bad ∧ Hex.readData (some 32) bad = .error cause ∧
        fault = .hex cause := by
  obtain ⟨good, bad, rest, split, accepted, failed⟩ := readArray_eq_error refused
  obtain ⟨cause, unread, same⟩ := readHash_eq_error (hashed bad failed)
  refine ⟨bad, cause, ⟨good, rest, split, ?_, ?_⟩, unread, same⟩
  · simpa only [item] using accepted
  · simp only [← item, failed, reduceCtorEq, exists_false, not_false_eq_true]

theorem Codec.Items.firstBad {codec : Codec} {stands : Value → Value → Prop}
    (listed : codec.Items stands) {items : List Value} {fault : Payload.Fault}
    (refused : codec.read (.list items) = .error fault) : ∃ bad cause, FirstBad stands items bad ∧
      Hex.readData (some 32) bad = .error cause ∧ fault = .hex cause := by
  cases listed with
  | hashes => exact readArray_firstBad (fun _ _ => readHash_eq_ok_iff) (fun _ => id) refused
  | transactions =>
    exact readArray_firstBad (fun _ _ => readTransaction_eq_ok_iff)
      (fun _ => readTransaction_eq_error) refused

/-- The fault of an array is the fault of an item, or that it is none. -/
theorem readArray_fault_cases {read : Value → Except Payload.Fault Value} {raw : Value}
    {fault : Payload.Fault}
    (each : ∀ item, read item = .error fault → ∃ cause, fault = .hex cause)
    (refused : readArray read raw = .error fault) :
    (∃ cause, fault = .hex cause) ∨ fault = .notArray raw.typeName := by
  cases raw with
  | list items =>
    obtain ⟨_, bad, _, _, _, failed⟩ := readArray_eq_error refused
    exact Or.inl (each bad failed)
  | _ =>
    cases refused
    exact Or.inr rfl

/-- A codec finds fault with hex digits, with an address, or with what should be an array. -/
theorem Codec.fault_cases {codec : Codec} {raw : Value} {fault : Payload.Fault}
    (refused : codec.read raw = .error fault) :
    (∃ cause, fault = .hex cause) ∨ fault = .notArray raw.typeName ∨ fault = .address raw := by
  have hash : ∀ item, readHash item = .error fault → ∃ cause, fault = .hex cause := by
    intro item failed
    obtain ⟨cause, _, same⟩ := readHash_eq_error failed
    exact ⟨cause, same⟩
  cases codec with
  | data size =>
    obtain ⟨cause, _, rfl⟩ := Result.mapError_eq_error_iff.mp (Result.map_eq_error_iff.mp refused)
    exact Or.inl ⟨cause, rfl⟩
  | quantity =>
    rcases Result.bind_eq_error_iff.mp (Result.map_eq_error_iff.mp refused) with failed | ⟨_, _, _⟩
    · obtain ⟨cause, _, rfl⟩ := Result.mapError_eq_error_iff.mp failed
      exact Or.inl ⟨cause, rfl⟩
    · contradiction
  | address =>
    obtain ⟨_, _, rfl⟩ := Result.mapError_eq_error_iff.mp (Result.map_eq_error_iff.mp refused)
    exact Or.inr (Or.inr rfl)
  | hashes => exact (readArray_fault_cases hash refused).imp_right Or.inl
  | anything => exact (readArray_fault_cases (fun _ => by rintro ⟨⟩) refused).imp_right Or.inl
  | transactions =>
    exact (readArray_fault_cases (fun item failed => hash item (readTransaction_eq_error failed))
      refused).imp_right Or.inl

/-- No fault that a codec finds reads as if the field were missing: the message starts with another
letter. -/
theorem Codec.message?_ne_missing {codec : Codec} {raw : Value} {fault : Payload.Fault}
    (refused : codec.read raw = .error fault) (key : String) : ParseError.message? ⟨fault, some key⟩ ≠
      some ("Missing required field '" ++ key ++ "' for block") := by
  intro same
  have first : (ParseError.message? ⟨fault, some key⟩).bind (·.toList.head?) = some 'M' := by
    rw [same, Option.bind_some, String.toList_append, String.toList_append]
    rfl
  rcases fault_cases refused with ⟨cause, rfl⟩ | rfl | rfl
  · unfold ParseError.message? Hex.Fault.message? at first
    cases cause
    all_goals simp [Option.bind_eq_some_iff] at first
  · unfold ParseError.message? at first
    simp at first
  · unfold ParseError.message? at first
    simp [Option.bind_eq_some_iff] at first

theorem Row.blamed (refused : row.read payload = .error error) : row.Blamed payload error := by
  rcases read_eq_error_iff.mp refused with ⟨needed, absent, rfl⟩ | ⟨raw, fault, given, unread, rfl⟩
  · refine ⟨rfl, ⟨fun _ => ⟨needed, absent⟩, fun _ => rfl⟩, ?_⟩
    intro stands items _ given
    rw [absent] at given
    contradiction
  · refine ⟨rfl, ⟨fun same => absurd same (Codec.message?_ne_missing unread row.key), ?_⟩, ?_⟩
    · rintro ⟨_, absent⟩
      rw [given] at absent
      contradiction
    · intro stands items listed array
      obtain rfl := Option.some.inj (given.symm.trans array)
      obtain ⟨bad, cause, first, notHash, rfl⟩ := listed.firstBad unread
      exact ⟨bad, cause, first, notHash, rfl⟩

/-! Refused payloads -/

variable {σ : Type}

/-- A payload that is refused has a first row that it gets wrong. The error is about that row, and
any payload that gives the same under the keys up to there is refused in the same way. What is no
payload at all is refused without a field. The error is what is raised, unless an integer of the
payload is too long to be shown. -/
theorem ofWire_firstFault (state : σ) :
    (∀ payload failure, (ofWire (.dict payload) state).result = .error failure →
      ∃ error before row after,
        (failure = .parse error ∨
          ¬(Value.dict payload).Short ∧ failure = .badValue .unprintable) ∧
        FirstFault payload before row after ∧ row.Blamed payload error ∧
        ∀ other, (∀ seen ∈ before ++ [row], given? other seen.key = given? payload seen.key) →
          (ofWire (.dict other) state).result = .error failure) ∧
    ∀ value, (∀ payload, value ≠ .dict payload) → ∃ error,
      (ofWire value state).result = .error (.parse error) ∧ error.field = none := by
  constructor
  · intro payload failure failed
    cases read : readRows payload rows with
    | ok inputs =>
      obtain ⟨block, accepted, _⟩ := answers_ofWire_of_read read
      rw [accepted state] at failed
      contradiction
    | error error =>
      have unread : inputsOfWire (.dict payload) = .error error := read
      have refused := answers_ofWire_of_error unread state
      obtain rfl := Except.error.inj (failed.symm.trans refused)
      obtain ⟨before, row, after, table, earlier, failed⟩ := exists_of_readRows_eq_error read
      have wrong : ¬row.Accepts payload := by
        rw [Row.accepts_iff_read, failed]
        simp
      refine ⟨error, before, row, after, raised_of_inputsOfWire unread,
        ⟨table, earlier, wrong⟩, Row.blamed failed, ?_⟩
      intro other same
      have unread : inputsOfWire (.dict other) = .error error := by
        rw [inputsOfWire, table]
        exact readRows_eq_error_of_same earlier failed same
      exact answers_ofWire_of_error unread state
  · intro value other
    have refused : inputsOfWire value = .error ⟨.notObject value.typeName, none⟩ := by
      unfold inputsOfWire
      split
      · exact absurd rfl (other _)
      · rfl
    exact ⟨_, answers_ofWire_of_error refused state, rfl⟩

/-- A payload with one field in order and faults in four that follow it in the table. -/
def ragged : Entries := [
  ("transactions", .int 1), ("number", .str "0x07"), ("uncles", .list [.null]),
  ("sha3Uncles", .null), ("parentHash", .str (Hex.writeData (List.replicate 32 1)))]

/-- The second row is the first that is wrong, though other faults come before it in the payload. -/
theorem ofWire_firstFault_ragged : ∃ before row after, FirstFault ragged before row after ∧
    row.key = "sha3Uncles" ∧
    (ofWire (.dict ragged) ()).result = .error (.parse ⟨.missing, some "sha3Uncles"⟩) := by
  have unread : inputsOfWire (.dict ragged) = .error ⟨.missing, some "sha3Uncles"⟩ := rfl
  have refused := answers_ofWire_of_error unread ()
  rw [raised_of_isSome rfl] at refused
  obtain ⟨_, before, row, after, same | ⟨_, hidden⟩, first, blamed, _⟩ :=
    (ofWire_firstFault ()).1 ragged _ refused
  · cases same
    exact ⟨before, row, after, first, (Option.some.inj blamed.field).symm, refused⟩
  · contradiction

end LayerTwo.Block
