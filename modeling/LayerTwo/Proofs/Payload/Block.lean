import LayerTwo.Proofs.Payload.Shown
import LayerTwo.Proofs.Schema.Checked

/-! Which payloads are blocks. A payload becomes a block exactly when its rows are well formed; the
block then holds what each given row stands for and the default of each other row. The second check,
of the model itself, never refuses what the rows have let through. -/
namespace LayerTwo.Block

open Schema Operation

/-- The fields that are not null when their rows are not given. -/
def defaults : Entries :=
  [("mix_hash", .bytes (List.replicate 32 0)), ("nonce", .bytes (List.replicate 8 0)),
    ("uncles", .tuple []), ("seal_fields", .tuple []), ("transactions", .tuple [])]

def defaultOf (name : String) : Value := (defaults.lookup name).getD .null

/-- The value of a field is what its row stands for, or the default if the row is not given. -/
def Row.Holds (row : Row) (payload : Entries) (field : Value) : Prop :=
  match given? payload row.key with
  | some raw => row.codec.Stands raw field
  | none => field = defaultOf row.name

variable {α : Type} {codec : Codec} {check : Value → Checked α} {embed : α → Value}

/-! The check of a field against its codec -/

/-- The check takes whatever the codec reads, and keeps it as it is. -/
structure Codec.Fits (codec : Codec) (check : Value → Checked α) (embed : α → Value) : Prop where
  given : ∀ raw, ¬codec.Stands raw .null
  kept : ∀ raw field, codec.Stands raw field → ∃ a, check field = .ok a ∧ embed a = field

theorem fits_data (size : Option Int) : (Codec.data size).Fits bytes .bytes where
  given := by
    rintro raw ⟨_, _, _, _, _, null⟩
    contradiction
  kept := by
    rintro raw _ ⟨_, octets, _, _, _, rfl⟩
    exact ⟨octets, rfl, rfl⟩

theorem fits_quantity : Codec.quantity.Fits integer .int where
  given := by
    rintro raw ⟨_, _, _, _, _, null⟩
    contradiction
  kept := by
    rintro raw _ ⟨_, n, _, _, _, rfl⟩
    exact ⟨n, rfl, rfl⟩

theorem fits_address : Codec.address.Fits text .str where
  given := by
    rintro raw ⟨_, _, null⟩
    contradiction
  kept := by
    rintro raw _ ⟨form, _, rfl⟩
    exact ⟨form, rfl, rfl⟩

/-- The items of an array are checked one by one. -/
theorem sequence_kept {stands : Value → Value → Prop} {item : Value → Checked α}
    (kept : ∀ raw field, stands raw field → ∃ a, item field = .ok a ∧ embed a = field)
    {raw field : Value} (array : ArrayStands stands raw field) :
    ∃ results, sequence item field = .ok results ∧ .tuple (results.map embed) = field := by
  obtain ⟨items, fields, _, all, rfl⟩ := array
  have found : ∃ results, List.Forall₂ (fun field a => item field = .ok a) fields results ∧
      results.map embed = fields := by
    clear * - kept all
    induction all with
    | nil => exact ⟨[], .nil, rfl⟩
    | cons stood _ ih =>
      obtain ⟨a, checked, same⟩ := kept _ _ stood
      obtain ⟨results, others, rest⟩ := ih
      exact ⟨a :: results, .cons checked others, by rw [List.map_cons, same, rest]⟩
  obtain ⟨results, checked, same⟩ := found
  exact ⟨results, Checked.items_eq_ok_iff.mpr checked, by rw [same]⟩

theorem fits_hashes : Codec.hashes.Fits (sequence bytes) fun hashes => .tuple (hashes.map .bytes) where
  given := by
    rintro raw ⟨_, _, _, _, null⟩
    contradiction
  kept _ _ array := sequence_kept (fits_data (some 32)).kept array

theorem fits_anything : Codec.anything.Fits (sequence Checked.ok) .tuple where
  given := by
    rintro raw ⟨_, _, _, _, null⟩
    contradiction
  kept raw field array := by
    obtain ⟨items, checked, same⟩ :
        ∃ items, sequence Checked.ok field = .ok items ∧ .tuple (items.map id) = field :=
      sequence_kept (fun _ item _ => ⟨item, rfl, rfl⟩) array
    exact ⟨items, checked, by rwa [List.map_id] at same⟩

theorem fits_transactions : Codec.transactions.Fits (sequence Transaction.check)
    fun transactions => .tuple (transactions.map (·.toValue)) where
  given := by
    rintro raw ⟨_, _, _, _, null⟩
    contradiction
  kept _ _ array := by
    refine sequence_kept ?_ array
    rintro _ _ (⟨entries, _, rfl⟩ | ⟨_, octets, _, _, _, rfl⟩)
    · exact ⟨.full entries, rfl, rfl⟩
    · exact ⟨.hash octets, rfl, rfl⟩

theorem Codec.Fits.nullable (fits : codec.Fits check embed) :
    codec.Fits (nullable check) (.ofOption embed) where
  given := fits.given
  kept raw field stands := by
    obtain ⟨a, checked, same⟩ := fits.kept raw field stands
    have some : field ≠ .null := by
      rintro rfl
      exact fits.given raw stands
    exact ⟨_, nullable_of_ok some checked, same⟩

/-! From rows to fields -/

variable {row : Row} {payload inputs : Entries}

/-- A field that has to be given is there and is kept. -/
theorem Row.Leaves.required (leaves : row.Leaves payload (inputs.lookup row.name))
    (needed : row.presence = .needed) (fits : row.codec.Fits check embed) :
    ∃ a, required inputs row.name check = .ok a ∧ row.Holds payload (embed a) := by
  cases given : given? payload row.key with
  | none =>
    simp only [Row.Leaves, given] at leaves
    have maybe := leaves.1
    rw [needed] at maybe
    contradiction
  | some raw =>
    simp only [Row.Leaves, given] at leaves
    simp only [Row.Holds, given]
    obtain ⟨value, stands, found⟩ := leaves
    obtain ⟨a, checked, rfl⟩ := fits.kept raw value stands
    exact ⟨a, required_of_find? (find?_of_lookup _ found []) checked, stands⟩

theorem Row.Leaves.optional (leaves : row.Leaves payload (inputs.lookup row.name))
    (fits : row.codec.Fits check embed) {a : α} (standard : embed a = defaultOf row.name) :
    ∃ b, optional inputs row.name a check = .ok b ∧ row.Holds payload (embed b) := by
  cases given : given? payload row.key with
  | none =>
    simp only [Row.Leaves, given] at leaves
    simp only [Row.Holds, given]
    exact ⟨a, optional_of_lookup a leaves.2, standard⟩
  | some raw =>
    simp only [Row.Leaves, given] at leaves
    simp only [Row.Holds, given]
    obtain ⟨value, stands, found⟩ := leaves
    obtain ⟨b, checked, rfl⟩ := fits.kept raw value stands
    exact ⟨b, optional_of_find? (find?_of_lookup _ found []) checked, stands⟩

/-- Inputs that the rows leave always make a block, whose fields hold what the rows ask for. -/
theorem check_of_leaves (all : ∀ row ∈ rows, row.Leaves payload (inputs.lookup row.name)) :
    ∃ block, Block.check inputs = .ok block ∧
      List.Forall₂ (fun row field => field.1 = row.name ∧ row.Holds payload field.2) rows
        block.record.fields := by
  simp only [rows, List.forall_mem_cons] at all
  obtain ⟨parentHash, sha3Uncles, miner, stateRoot, transactionsRoot, receiptsRoot, logsBloom,
    difficulty, number, gasLimit, gasUsed, timestamp, extraData, mixHash, nonce, baseFee, uncles,
    hash, batchNumber, batchTimestamp, totalDifficulty, size, sealFields, transactions, _⟩ := all
  obtain ⟨parentHash, c1, h1⟩ := parentHash.required rfl (fits_data _)
  obtain ⟨sha3Uncles, c2, h2⟩ := sha3Uncles.required rfl (fits_data _)
  obtain ⟨miner, c3, h3⟩ := miner.optional fits_address.nullable (a := none) rfl
  obtain ⟨stateRoot, c4, h4⟩ := stateRoot.required rfl (fits_data _)
  obtain ⟨transactionsRoot, c5, h5⟩ := transactionsRoot.required rfl (fits_data _)
  obtain ⟨receiptsRoot, c6, h6⟩ := receiptsRoot.required rfl (fits_data _)
  obtain ⟨logsBloom, c7, h7⟩ := logsBloom.required rfl (fits_data _)
  obtain ⟨difficulty, c8, h8⟩ := difficulty.required rfl fits_quantity
  obtain ⟨number, c9, h9⟩ := number.required rfl fits_quantity
  obtain ⟨gasLimit, c10, h10⟩ := gasLimit.required rfl fits_quantity
  obtain ⟨gasUsed, c11, h11⟩ := gasUsed.required rfl fits_quantity
  obtain ⟨timestamp, c12, h12⟩ := timestamp.required rfl fits_quantity
  obtain ⟨extraData, c13, h13⟩ := extraData.required rfl (fits_data _)
  obtain ⟨mixHash, c14, h14⟩ := mixHash.optional (fits_data _) (a := List.replicate 32 0) rfl
  obtain ⟨nonce, c15, h15⟩ := nonce.optional (fits_data _) (a := List.replicate 8 0) rfl
  obtain ⟨baseFee, c16, h16⟩ := baseFee.optional fits_quantity.nullable (a := none) rfl
  obtain ⟨uncles, c17, h17⟩ := uncles.optional fits_hashes (a := []) rfl
  obtain ⟨hash, c18, h18⟩ := hash.optional (fits_data _).nullable (a := none) rfl
  obtain ⟨batchNumber, c19, h19⟩ := batchNumber.optional fits_quantity.nullable (a := none) rfl
  obtain ⟨batchTimestamp, c20, h20⟩ := batchTimestamp.optional fits_quantity.nullable (a := none) rfl
  obtain ⟨totalDifficulty, c21, h21⟩ := totalDifficulty.optional fits_quantity.nullable (a := none) rfl
  obtain ⟨size, c22, h22⟩ := size.optional fits_quantity.nullable (a := none) rfl
  obtain ⟨sealFields, c23, h23⟩ := sealFields.optional fits_anything (a := []) rfl
  obtain ⟨transactions, c24, h24⟩ := transactions.optional fits_transactions (a := []) rfl
  refine ⟨⟨parentHash, sha3Uncles, miner, stateRoot, transactionsRoot, receiptsRoot, logsBloom,
    difficulty, number, gasLimit, gasUsed, timestamp, extraData, mixHash, nonce, baseFee, uncles,
    hash, batchNumber, batchTimestamp, totalDifficulty, size, sealFields, transactions⟩, ?_, ?_⟩
  · rw [Block.check, c1, c2, c3, c4, c5, c6, c7, c8, c9, c10, c11, c12, c13, c14, c15, c16, c17,
      c18, c19, c20, c21, c22, c23, c24]
    rfl
  · simp only [rows, record, List.forall₂_cons, true_and]
    exact ⟨h1, h2, h3, h4, h5, h6, h7, h8, h9, h10, h11, h12, h13, h14, h15, h16, h17, h18, h19,
      h20, h21, h22, h23, h24, .nil⟩

/-! Blocks of a payload -/

variable {σ : Type}

theorem answers_ofWire_of_checked {inputs : Entries} {block : Block}
    (read : readRows payload rows = .ok inputs) (checked : Block.check inputs = .ok block) :
    Answers (ofWire (.dict payload) : Operation σ Block) (.ok block) := by
  simp only [ofWire, inputsOfWire, read, Operation.parsed]
  refine (answers_pure inputs).bind ?_
  rw [checked]
  exact answers_ofExcept _

/-- A payload that is read in the first place always ends in a block. -/
theorem answers_ofWire_of_read {inputs : Entries} (read : readRows payload rows = .ok inputs) :
    ∃ block, Answers (ofWire (.dict payload) : Operation σ Block) (.ok block) ∧
      List.Forall₂ (fun row field => field.1 = row.name ∧ row.Holds payload field.2) rows
        block.record.fields := by
  have names : (rows.map Row.name).Nodup := by decide
  obtain ⟨block, checked, holds⟩ := check_of_leaves (leaves_lookup read names)
  exact ⟨block, answers_ofWire_of_checked read checked, holds⟩

theorem answers_ofWire_of_error {value : Value} {error : ParseError}
    (refused : inputsOfWire value = .error error) :
    Answers (ofWire value : Operation σ Block) (.error (raised (.parse error))) := by
  simp only [ofWire, refused]
  exact (answers_parsed .wire (.error error)).bind_error

/-- A value is refused with its own error, unless an integer in it is too long to be shown. -/
theorem raised_of_inputsOfWire {value : Value} {error : ParseError}
    (refused : inputsOfWire value = .error error) : raised (.parse error) = .parse error ∨
      ¬value.Short ∧ raised (.parse error) = .badValue .unprintable :=
  raised_cases (shown_of_inputsOfWire refused)

/-- A value becomes a block exactly when it is a payload whose rows are all well formed, and is
refused as a payload otherwise, unless an integer in it is too long to be shown. The block holds,
field by field, what the rows stand for. -/
theorem ofWire_block (value : Value) (state : σ) :
    ((∃ block, (ofWire value state).result = .ok block) ↔
      ∃ payload, value = .dict payload ∧ ∀ row ∈ rows, row.Accepts payload) ∧
    (∀ block, (ofWire value state).result = .ok block → ∃ payload, value = .dict payload ∧
      List.Forall₂ (fun row field => field.1 = row.name ∧ row.Holds payload field.2) rows
        block.record.fields) ∧
    ∀ failure, (ofWire value state).result = .error failure →
      (∃ error, failure = .parse error) ∨ ¬value.Short ∧ failure = .badValue .unprintable := by
  cases read : inputsOfWire value with
  | ok inputs =>
    unfold inputsOfWire at read
    split at read
    · rename_i payload
      obtain ⟨block, result, holds⟩ := answers_ofWire_of_read read
      rw [result state]
      refine ⟨⟨fun _ => ⟨payload, rfl, readRows_accepts_iff.mp ⟨inputs, read⟩⟩,
        fun _ => ⟨block, rfl⟩⟩, ?_, ?_⟩
      · rintro other ⟨⟩
        exact ⟨payload, rfl, holds⟩
      · rintro failure ⟨⟩
    · contradiction
  | error error =>
    rw [answers_ofWire_of_error read state]
    refine ⟨⟨?_, ?_⟩, ?_, ?_⟩
    · rintro ⟨block, ⟨⟩⟩
    · rintro ⟨payload, rfl, accepted⟩
      obtain ⟨inputs, other⟩ := readRows_accepts_iff.mpr accepted
      change readRows payload rows = .error error at read
      rw [other] at read
      contradiction
    · rintro block ⟨⟩
    · rintro _ ⟨⟩
      exact (raised_of_inputsOfWire read).imp_left fun own => ⟨error, own⟩

end LayerTwo.Block
