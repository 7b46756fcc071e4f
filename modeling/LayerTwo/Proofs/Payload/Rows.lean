import LayerTwo.Proofs.Payload.Codec

/-! Reading a table of rows. The rows are read exactly when each row that is needed is given and each
row that is given is well formed; the fields then stand under the names of the rows, and a row that
is not given leaves no field. -/
namespace LayerTwo.Block

/-- The value under a key. A null counts as not given. -/
def given? (payload : Entries) (key : String) : Option Value :=
  match payload.lookup key with
  | none | some .null => none
  | some value => some value

/-- What a row asks of a payload. -/
def Row.Accepts (row : Row) (payload : Entries) : Prop :=
  match given? payload row.key with
  | some raw => ∃ field, row.codec.Stands raw field
  | none => row.presence = .maybe

/-- A row leaves its field among the inputs of a block, or none if it is not given. -/
def Row.Leaves (row : Row) (payload : Entries) (field : Option Value) : Prop :=
  match given? payload row.key with
  | some raw => ∃ value, row.codec.Stands raw value ∧ field = some value
  | none => row.presence = .maybe ∧ field = none

theorem Row.read_eq {row : Row} {payload : Entries} : row.read payload =
    match given? payload row.key with
    | some raw =>
      match row.codec.read raw with
      | .ok value => .ok (some (row.name, value))
      | .error fault => .error ⟨fault, some row.key⟩
    | none =>
      match row.presence with
      | .needed => .error ⟨.missing, some row.key⟩
      | .maybe => .ok none := by
  unfold Row.read given?
  rcases payload.lookup row.key with _ | raw
  · rfl
  · cases raw <;> rfl

theorem Row.read_eq_ok_iff {row : Row} {payload : Entries} {result : Option (String × Value)} :
    row.read payload = .ok result ↔
      ∃ field, row.Leaves payload field ∧ result = field.map fun value => (row.name, value) := by
  rw [Row.read_eq]
  unfold Row.Leaves
  cases given? payload row.key with
  | none => cases row.presence <;> simp [eq_comm]
  | some raw =>
    simp only [← Codec.read_eq_ok_iff]
    cases row.codec.read raw with
    | ok value => simp [eq_comm]
    | error fault => simp

/-- The first row is read, then the others. -/
theorem readRows_cons_eq_ok_iff {row : Row} {rest : List Row} {payload inputs : Entries} :
    readRows payload (row :: rest) = .ok inputs ↔ ∃ field fields, row.Leaves payload field ∧
      readRows payload rest = .ok fields ∧
      inputs = (field.map fun value => (row.name, value)).toList ++ fields := by
  simp only [readRows, Result.bind_eq_ok_iff, Row.read_eq_ok_iff]
  constructor
  · rintro ⟨_, ⟨field, leaves, rfl⟩, fields, read, same⟩
    cases same
    exact ⟨field, fields, leaves, read, rfl⟩
  · rintro ⟨field, fields, leaves, read, rfl⟩
    exact ⟨_, ⟨field, leaves, rfl⟩, fields, read, rfl⟩

theorem Row.accepts_iff {row : Row} {payload : Entries} :
    row.Accepts payload ↔ ∃ field, row.Leaves payload field := by
  unfold Accepts Leaves
  cases given? payload row.key with
  | none => simp
  | some raw =>
    constructor
    · rintro ⟨value, stands⟩
      exact ⟨some value, value, stands, rfl⟩
    · rintro ⟨_, value, stands, _⟩
      exact ⟨value, stands⟩

theorem readRows_accepts_iff {rows : List Row} {payload : Entries} :
    (∃ inputs, readRows payload rows = .ok inputs) ↔ ∀ row ∈ rows, row.Accepts payload := by
  induction rows with
  | nil => exact ⟨fun _ => List.forall_mem_nil _, fun _ => ⟨[], rfl⟩⟩
  | cons row rest ih =>
    rw [List.forall_mem_cons, ← ih, Row.accepts_iff]
    simp only [readRows_cons_eq_ok_iff]
    constructor
    · rintro ⟨_, field, fields, leaves, read, _⟩
      exact ⟨⟨field, leaves⟩, fields, read⟩
    · rintro ⟨⟨field, leaves⟩, fields, read⟩
      exact ⟨_, field, fields, leaves, read, rfl⟩

/-- A name that no row has is no name of an input. -/
theorem lookup_eq_none {rows : List Row} {payload inputs : Entries}
    (read : readRows payload rows = .ok inputs) {name : String} (other : name ∉ rows.map Row.name) :
    inputs.lookup name = none := by
  induction rows generalizing inputs with
  | nil =>
    cases read
    rfl
  | cons row rest ih =>
    obtain ⟨field, fields, _, later, rfl⟩ := readRows_cons_eq_ok_iff.mp read
    simp only [List.map_cons, List.mem_cons, not_or] at other
    have distinct : (name == row.name) = false := by simpa using other.1
    cases field with
    | none => exact ih later other.2
    | some value =>
      simp only [Option.map_some, Option.toList_some, List.singleton_append, List.lookup_cons,
        distinct]
      exact ih later other.2

/-- The induction is on the rows: a later row has another name, so the field of the first one does
not hide it. -/
theorem leaves_lookup {rows : List Row} {payload inputs : Entries}
    (read : readRows payload rows = .ok inputs) (names : (rows.map Row.name).Nodup) :
    ∀ row ∈ rows, row.Leaves payload (inputs.lookup row.name) := by
  induction rows generalizing inputs with
  | nil => exact List.forall_mem_nil _
  | cons row rest ih =>
    obtain ⟨field, fields, leaves, later, rfl⟩ := readRows_cons_eq_ok_iff.mp read
    simp only [List.map_cons, List.nodup_cons] at names
    obtain ⟨own, names⟩ := names
    have first : List.lookup row.name
        ((field.map fun value => (row.name, value)).toList ++ fields) = field := by
      cases field with
      | none => exact lookup_eq_none later own
      | some value => simp
    refine List.forall_mem_cons.mpr ⟨first.symm ▸ leaves, ?_⟩
    intro other member
    have distinct : (other.name == row.name) = false := by
      simp only [beq_eq_false_iff_ne]
      intro same
      exact own (same ▸ List.mem_map_of_mem member)
    cases field with
    | none => exact ih later names other member
    | some value =>
      simp only [Option.map_some, Option.toList_some, List.singleton_append, List.lookup_cons,
        distinct]
      exact ih later names other member

end LayerTwo.Block
