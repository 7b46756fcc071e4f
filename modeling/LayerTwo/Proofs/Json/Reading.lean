import LayerTwo.Proofs.Json.Token

/-! Every text of a value is read as that value. A reader skips the blanks in front of a token, so a
value in a longer text leaves the blanks behind it to whoever reads on. The induction is on how the
text was written, and the length of the text is fuel enough. -/
namespace LayerTwo.Json

open LayerTwo.Text LayerTwo.Decimal

variable {rest : List Char} {spells : String → List Char → Prop}

/-! Values -/

/-- The characters that a value starts with. -/
def Opens (c : Char) : Prop :=
  c ∈ ['n', 't', 'f', '-', '[', quotationMark, openBrace] ∨ c.isDigit = true

theorem Opens.toNat {c : Char} (opens : Opens c) : 0x20 < c.toNat ∧ c.toNat < 0x80 := by
  rcases opens with listed | digit
  · simp only [List.mem_cons, List.not_mem_nil, or_false] at listed
    rcases listed with rfl | rfl | rfl | rfl | rfl | rfl | rfl <;> decide
  · have range := Char.isDigit_iff_toNat.mp digit
    change 48 ≤ c.toNat ∧ c.toNat ≤ 57 at range
    omega

theorem Opens.solid {c : Char} (opens : Opens c) : isSpace c = false := by
  have visible := opens.toNat.1
  rw [Bool.eq_false_iff, Ne, isSpace_iff]
  rintro (rfl | rfl | rfl | rfl) <;> exact absurd visible (by decide)

theorem Opens.ne_closing {c : Char} (opens : Opens c) : c ≠ ']' := by
  rintro rfl
  rcases opens with listed | digit
  · exact absurd listed (by decide)
  · contradiction

/-- An integer is written as a numeral that is digits alone. -/
theorem WritesSign.numeral {negative : Bool} {sign : List Char} (signed : WritesSign negative sign)
    (n : Nat) : WritesNumeral ⟨negative, Nat.toDigits 10 n, [], Option.none⟩
      (sign ++ Nat.toDigits 10 n) := by
  have written := @WritesNumeral.mk _ n _ _ _ _ _ signed .none .none
  rwa [List.append_nil, List.append_nil] at written

theorem WritesNumeral.starts {numeral : Numeral} {text : List Char}
    (written : WritesNumeral numeral text) :
    ∃ c tail, c.isDigit = true ∧ (text = c :: tail ∨ text = '-' :: c :: tail) := by
  obtain @⟨_, whole, _, _, _, _, _, signed, _, _⟩ := written
  cases digits : Nat.toDigits 10 whole with
  | nil => exact absurd digits Nat.toDigits_ne_nil
  | cons first others =>
    have digit := isDigit_of_mem_toDigits first (digits ▸ List.mem_cons_self)
    cases signed with
    | none => exact ⟨first, _, digit, Or.inl rfl⟩
    | minus => exact ⟨first, _, digit, Or.inr rfl⟩

theorem WritesNumeral.opens {numeral : Numeral} {text : List Char}
    (written : WritesNumeral numeral text) : ∃ c tail, text = c :: tail ∧ Opens c := by
  obtain ⟨c, tail, digit, rfl | rfl⟩ := written.starts
  · exact ⟨c, tail, rfl, Or.inr digit⟩
  · exact ⟨'-', c :: tail, rfl, Or.inl (by decide)⟩

theorem Writes.opens {value : Value} {text : List Char} (written : Writes spells value text) :
    ∃ c tail, text = c :: tail ∧ Opens c := by
  cases written with
  | null | true | false | emptyArray | array | emptyObject | object =>
    exact ⟨_, _, rfl, Or.inl (by decide)⟩
  | integer n signed => exact (signed.numeral n).opens
  | real written => exact written.opens
  | string written =>
    obtain ⟨inside⟩ := written
    exact ⟨_, _, rfl, Or.inl (by decide)⟩

theorem WritesPadded.opens {value : Value} {text : List Char}
    (written : WritesPadded spells value text) (rest : List Char) :
    ∃ c tail, skip (text ++ rest) = c :: tail ∧ Opens c := by
  obtain ⟨leading, written, trailing⟩ := written
  obtain ⟨c, tail, rfl, opens⟩ := written.opens
  rw [List.append_assoc, skip_append leading]
  exact ⟨c, _, skip_cons opens.solid _, opens⟩

theorem WritesItems.opens {items : List Value} {text : List Char}
    (written : WritesItems spells items text) (rest : List Char) :
    ∃ c tail, skip (text ++ rest) = c :: tail ∧ Opens c := by
  cases written with
  | last first | next first =>
    rw [List.append_assoc]
    exact first.opens _

theorem WritesMembers.opens {entries : Entries} {text : List Char}
    (written : WritesMembers spells entries text) (rest : List Char) :
    ∃ tail, skip (text ++ rest) = quotationMark :: tail := by
  cases written with
  | last leading named | next leading named =>
    obtain ⟨inside⟩ := named
    rw [List.append_assoc, skip_append leading]
    exact ⟨_, skip_cons (by decide) _⟩

/-- A value that the reader gives back as it is: its integers are not too long, and no key of its
objects comes twice. -/
inductive Readable : Value → Prop where
  | null : Readable .null
  | bool (b : Bool) : Readable (.bool b)
  | int {n : Int} (short : (Nat.toDigits 10 n.natAbs).length ≤ maxDigits) : Readable (.int n)
  | float (x : Float) : Readable (.float x)
  | str (s : String) : Readable (.str s)
  | list {items : List Value} (all : ∀ item ∈ items, Readable item) : Readable (.list items)
  | dict {entries : Entries} (distinct : (entries.map Prod.fst).Nodup)
      (all : ∀ entry ∈ entries, Readable entry.2) : Readable (.dict entries)

/-! Entries -/

theorem insertAt_new {α : Type} {key : String} {item : α} {table : List (String × α)}
    (new : key ∉ table.map Prod.fst) : insertAt key item table = table ++ [(key, item)] := by
  induction table with
  | nil => rfl
  | cons entry others ih =>
    obtain ⟨k, i⟩ := entry
    simp only [List.map_cons, List.mem_cons, not_or] at new
    rw [insertAt, if_neg (Ne.symm new.1), ih new.2, List.cons_append]

/-- Entries with different keys are kept as they are. -/
theorem insertAll_distinct {table pairs : Entries}
    (distinct : ((table ++ pairs).map Prod.fst).Nodup) :
    Entries.insertAll table pairs = table ++ pairs := by
  induction pairs generalizing table with
  | nil => exact (List.append_nil table).symm
  | cons entry others ih =>
    obtain ⟨key, value⟩ := entry
    have new : key ∉ table.map Prod.fst := by
      rw [List.map_append, List.nodup_append] at distinct
      intro member
      exact distinct.2.2 key member key List.mem_cons_self rfl
    have step : Entries.insertAll table ((key, value) :: others) =
        Entries.insertAll (table ++ [(key, value)]) others := by
      rw [← insertAt_new new]
      rfl
    rw [step, ih (by rwa [List.append_assoc]), List.append_assoc, List.singleton_append]

theorem ofPairs_distinct {pairs : Entries} (distinct : (pairs.map Prod.fst).Nodup) :
    Entries.ofPairs pairs = pairs := insertAll_distinct distinct

/-! The readers -/

/-- The text behind a padded value goes on with a token of its own. -/
structure Closes (rest : List Char) : Prop where
  ends : Ends rest
  solid : skip rest = rest

def ReadsValue (value : Value) (text : List Char) : Prop :=
  Readable value → ∀ fuel rest, text.length ≤ fuel → Ends rest →
    readValue fuel (text ++ rest) = .ok (value, rest)

def ReadsPadded (value : Value) (text : List Char) : Prop :=
  Readable value → ∀ fuel rest, text.length ≤ fuel → Closes rest →
    ∃ left, readValue fuel (skip (text ++ rest)) = .ok (value, left) ∧ skip left = rest

def ReadsItems (items : List Value) (text : List Char) : Prop :=
  (∀ item ∈ items, Readable item) → ∀ fuel rest, text.length ≤ fuel →
    readItems fuel (skip (text ++ rest)) = .ok (items, rest)

def ReadsMembers (entries : Entries) (text : List Char) : Prop :=
  (∀ entry ∈ entries, Readable entry.2) → ∀ fuel rest, text.length ≤ fuel →
    readMembers fuel (skip (text ++ rest)) = .ok (entries, rest)

theorem closes_token {c : Char} (tail : List Char) (solid : isSpace c = false)
    (other : c.isDigit = false ∧ c ≠ '.' ∧ c ≠ 'e' ∧ c ≠ 'E') : Closes (c :: tail) where
  ends := by
    rintro _ _ ⟨⟩
    exact other
  solid := skip_cons solid tail

theorem closes_nil : Closes [] where
  ends := by
    rintro _ _ ⟨⟩
  solid := rfl

theorem ends_blank {blank : List Char} (blanks : Blank blank) (ends : Ends rest) :
    Ends (blank ++ rest) := by
  cases blank with
  | nil => exact ends
  | cons c others =>
    rintro _ _ ⟨⟩
    rcases blanks c List.mem_cons_self with rfl | rfl | rfl | rfl <;> decide

/-- What is neither a string nor an array nor an object is an atom. -/
theorem readValue_atom {text tail : List Char} {value : Value} {c : Char} {fuel : Nat}
    (starts : text = c :: tail) (atom : c ≠ quotationMark ∧ c ≠ '[' ∧ c ≠ openBrace)
    (read : readAtom text = .ok (value, rest)) (enough : 0 < fuel) :
    readValue fuel text = .ok (value, rest) := by
  obtain ⟨fuel, rfl⟩ := Nat.exists_eq_add_one.mpr enough
  subst starts
  rw [readValue.eq_def]
  simp only [atom, if_false, read]

theorem readAtom_of_digit {text tail : List Char} {c : Char} (digit : c.isDigit = true)
    (starts : text = c :: tail ∨ text = '-' :: c :: tail) : readAtom text = readNumber text := by
  rw [readAtom.eq_def]
  split
  all_goals try rfl
  all_goals rcases starts with same | same <;> cases same <;> contradiction

theorem WritesNumeral.readValue {numeral : Numeral} {text : List Char} {value : Value} {fuel : Nat}
    (written : WritesNumeral numeral text) (means : numeral.value = .ok value) (ends : Ends rest)
    (enough : text.length ≤ fuel) : readValue fuel (text ++ rest) = .ok (value, rest) := by
  have number : readNumber (text ++ rest) = .ok (value, rest) := by
    rw [readNumber, written.read ends]
    simp only [means, Except.map]
  obtain ⟨c, tail, digit, starts⟩ := written.starts
  have atom : readAtom (text ++ rest) = .ok (value, rest) := by
    have longer : text ++ rest = c :: (tail ++ rest) ∨ text ++ rest = '-' :: c :: (tail ++ rest) :=
      starts.imp (congrArg (· ++ rest)) (congrArg (· ++ rest))
    rw [readAtom_of_digit digit longer, number]
  rcases starts with rfl | rfl
  · refine readValue_atom rfl ⟨?_, ?_, ?_⟩ atom (Nat.zero_lt_of_lt enough)
    all_goals
      rintro rfl
      contradiction
  · exact readValue_atom rfl (by decide) atom (Nat.zero_lt_of_lt enough)

/-! One lemma for each way to write a value, its items or its members -/

theorem readsValue_integer {negative : Bool} {sign : List Char} (n : Nat)
    (signed : WritesSign negative sign) :
    ReadsValue (.int (if negative then -n else n)) (sign ++ Nat.toDigits 10 n) := by
  intro readable fuel rest enough ends
  have short : (Nat.toDigits 10 n).length ≤ maxDigits := by
    cases readable with
    | int short => cases negative <;> simpa using short
  refine (signed.numeral n).readValue ?_ ends enough
  simp only [Numeral.value, not_lt.mpr short, if_false, ofDigits_toDigits, withSign]

theorem readsValue_string {s : String} {text : List Char} (written : WritesString Exact s text) :
    ReadsValue (.str s) text := by
  intro _ fuel rest enough _
  obtain ⟨inner, rfl, read⟩ := written.read
  obtain ⟨fuel, rfl⟩ := Nat.exists_eq_add_one.mpr (Nat.zero_lt_of_lt enough)
  rw [List.cons_append, readValue.eq_def]
  simp only [if_true, read]
  rfl

theorem readsPadded {value : Value} {before text after : List Char} (leading : Blank before)
    (written : Writes Exact value text) (trailing : Blank after) (reads : ReadsValue value text) :
    ReadsPadded value (before ++ (text ++ after)) := by
  intro readable fuel rest enough closes
  obtain ⟨c, tail, rfl, opens⟩ := written.opens
  have short : (c :: tail).length ≤ fuel := by
    simp only [List.length_append] at enough
    omega
  refine ⟨after ++ rest, ?_, ?_⟩
  · rw [List.append_assoc, skip_append leading, List.append_assoc, List.cons_append,
      skip_cons opens.solid]
    exact reads readable fuel (after ++ rest) short (ends_blank trailing closes.ends)
  · rw [skip_append trailing, closes.solid]

theorem readsValue_emptyArray {blank : List Char} (blanks : Blank blank) :
    ReadsValue (.list []) ('[' :: (blank ++ [']'])) := by
  intro _ fuel rest enough _
  obtain ⟨fuel, rfl⟩ := Nat.exists_eq_add_one.mpr (Nat.zero_lt_of_lt enough)
  rw [List.cons_append, List.append_assoc, readValue.eq_def]
  simp only [show ¬ '[' = quotationMark by decide, if_true, if_false, skip_append blanks,
    List.singleton_append, skip_cons (show isSpace ']' = false by decide)]

theorem readsValue_array {items : List Value} {text : List Char}
    (body : WritesItems Exact items text) (reads : ReadsItems items text) :
    ReadsValue (.list items) ('[' :: text) := by
  intro readable fuel rest enough _
  obtain ⟨fuel, rfl⟩ := Nat.exists_eq_add_one.mpr (Nat.zero_lt_of_lt enough)
  have all : ∀ item ∈ items, Readable item := by
    cases readable with
    | list all => exact all
  have read := reads all fuel rest (Nat.le_of_succ_le_succ enough)
  obtain ⟨c, tail, same, opens⟩ := body.opens rest
  rw [same] at read
  rw [List.cons_append, readValue.eq_def]
  simp only [show ¬ '[' = quotationMark by decide, if_true, if_false, same]
  split
  · rename_i closing
    cases closing
    exact absurd rfl opens.ne_closing
  · rw [read]
    rfl

theorem readsValue_emptyObject {blank : List Char} (blanks : Blank blank) :
    ReadsValue (.dict []) (openBrace :: (blank ++ [closeBrace])) := by
  intro _ fuel rest enough _
  obtain ⟨fuel, rfl⟩ := Nat.exists_eq_add_one.mpr (Nat.zero_lt_of_lt enough)
  rw [List.cons_append, List.append_assoc, readValue.eq_def]
  simp only [show ¬openBrace = quotationMark by decide, show ¬openBrace = '[' by decide, if_true,
    if_false, skip_append blanks, List.singleton_append,
    skip_cons (show isSpace closeBrace = false by decide)]

theorem readsValue_object {entries : Entries} {text : List Char}
    (body : WritesMembers Exact entries text) (reads : ReadsMembers entries text) :
    ReadsValue (.dict entries) (openBrace :: text) := by
  intro readable fuel rest enough _
  obtain ⟨fuel, rfl⟩ := Nat.exists_eq_add_one.mpr (Nat.zero_lt_of_lt enough)
  obtain ⟨distinct, all⟩ : (entries.map Prod.fst).Nodup ∧ ∀ entry ∈ entries, Readable entry.2 := by
    cases readable with
    | dict distinct all => exact ⟨distinct, all⟩
  have read := reads all fuel rest (Nat.le_of_succ_le_succ enough)
  obtain ⟨tail, same⟩ := body.opens rest
  rw [same] at read
  rw [List.cons_append, readValue.eq_def]
  simp only [show ¬openBrace = quotationMark by decide, show ¬openBrace = '[' by decide, if_true,
    if_false, same, show ¬quotationMark = closeBrace by decide, read]
  simp only [Except.map, ofPairs_distinct distinct]

theorem readsItems_last {item : Value} {text : List Char} (reads : ReadsPadded item text) :
    ReadsItems [item] (text ++ [']']) := by
  intro all fuel rest enough
  simp only [List.length_append, List.length_singleton] at enough
  obtain ⟨fuel, rfl⟩ := Nat.exists_eq_add_one.mpr (show 0 < fuel by omega)
  obtain ⟨left, read, closed⟩ := reads (all item List.mem_cons_self) fuel (']' :: rest) (by omega)
    (closes_token rest (by decide) (by decide))
  rw [List.append_assoc, List.singleton_append, readItems.eq_def]
  simp only [read, closed]

theorem readsItems_next {item : Value} {items : List Value} {text others : List Char}
    (first : ReadsPadded item text) (reads : ReadsItems items others) :
    ReadsItems (item :: items) (text ++ ',' :: others) := by
  intro all fuel rest enough
  simp only [List.length_append, List.length_cons] at enough
  obtain ⟨fuel, rfl⟩ := Nat.exists_eq_add_one.mpr (show 0 < fuel by omega)
  obtain ⟨itemReadable, itemsReadable⟩ := List.forall_mem_cons.mp all
  obtain ⟨left, read, closed⟩ := first itemReadable fuel (',' :: (others ++ rest)) (by omega)
    (closes_token _ (by decide) (by decide))
  have readOthers := reads itemsReadable fuel rest (by omega)
  rw [List.append_assoc, List.cons_append, readItems.eq_def]
  simp only [read, closed, readOthers]
  rfl

/-- A member is read with its value; then a comma goes on to the others, or a brace ends them. -/
theorem readMembers_named {key : String} {value : Value} {before name after text left : List Char}
    {fuel : Nat} (leading : Blank before) (named : WritesString Exact key name)
    (trailing : Blank after) (read : readValue fuel (skip text) = .ok (value, left)) :
    (∀ others, skip left = ',' :: others →
      readMembers (fuel + 1) (skip (before ++ (name ++ (after ++ ':' :: text)))) =
        (readMembers fuel (skip others)).map fun (pairs, rest) => ((key, value) :: pairs, rest)) ∧
    ∀ rest, skip left = closeBrace :: rest →
      readMembers (fuel + 1) (skip (before ++ (name ++ (after ++ ':' :: text)))) =
        .ok ([(key, value)], rest) := by
  obtain ⟨inner, rfl, nameRead⟩ := named.read
  have colon : skip (':' :: text) = ':' :: text := skip_cons (by decide) text
  rw [skip_append leading, List.cons_append, skip_cons (by decide), readMembers.eq_def]
  constructor
  · intro others closed
    simp only [if_true, nameRead, skip_append trailing, colon, read, closed]
  · intro rest closed
    simp only [if_true, nameRead, skip_append trailing, colon, read, closed]
    rfl

theorem readsMembers_last {key : String} {value : Value} {before name after text : List Char}
    (leading : Blank before) (named : WritesString Exact key name) (trailing : Blank after)
    (reads : ReadsPadded value text) :
    ReadsMembers [(key, value)] (before ++ (name ++ (after ++ ':' :: (text ++ [closeBrace])))) := by
  intro all fuel rest enough
  simp only [List.length_append, List.length_cons] at enough
  obtain ⟨fuel, rfl⟩ := Nat.exists_eq_add_one.mpr (show 0 < fuel by omega)
  obtain ⟨left, read, closed⟩ := reads (all _ List.mem_cons_self) fuel (closeBrace :: rest)
    (by omega) (closes_token rest (by decide) (by decide))
  simp only [List.append_assoc, List.cons_append, List.nil_append]
  exact (readMembers_named leading named trailing read).2 rest closed

theorem readsMembers_next {key : String} {value : Value} {entries : Entries}
    {before name after text others : List Char} (leading : Blank before)
    (named : WritesString Exact key name) (trailing : Blank after) (first : ReadsPadded value text)
    (reads : ReadsMembers entries others) :
    ReadsMembers ((key, value) :: entries)
      (before ++ (name ++ (after ++ ':' :: (text ++ ',' :: others)))) := by
  intro all fuel rest enough
  simp only [List.length_append, List.length_cons] at enough
  obtain ⟨fuel, rfl⟩ := Nat.exists_eq_add_one.mpr (show 0 < fuel by omega)
  obtain ⟨valueReadable, entriesReadable⟩ := List.forall_mem_cons.mp all
  obtain ⟨left, read, closed⟩ := first valueReadable fuel (',' :: (others ++ rest)) (by omega)
    (closes_token _ (by decide) (by decide))
  have readOthers := reads entriesReadable fuel rest (by omega)
  simp only [List.append_assoc, List.cons_append]
  rw [(readMembers_named leading named trailing read).1 _ closed, readOthers]
  rfl

/-- A text of a readable value is read as that value. -/
theorem WritesPadded.reads {value : Value} {text : List Char}
    (written : WritesPadded Exact value text) : ReadsPadded value text := by
  refine WritesPadded.rec (motive_1 := fun value text _ => ReadsValue value text)
    (motive_2 := fun value text _ => ReadsPadded value text)
    (motive_3 := fun items text _ => ReadsItems items text)
    (motive_4 := fun entries text _ => ReadsMembers entries text)
    ?null ?true ?false ?integer ?real ?string ?emptyArray ?array ?emptyObject ?object ?padded
    ?lastItem ?nextItem ?lastMember ?nextMember written
  case null | true | false =>
    intro _ fuel rest enough _
    exact readValue_atom rfl (by decide) rfl (Nat.zero_lt_of_lt enough)
  case integer =>
    intro negative sign n signed
    exact readsValue_integer n signed
  case real =>
    intro numeral text written broken _ fuel rest enough ends
    exact written.readValue (Numeral.value_of_broken broken) ends enough
  case string =>
    intro s text written
    exact readsValue_string written
  case emptyArray =>
    intro blank blanks
    exact readsValue_emptyArray blanks
  case array =>
    intro items text body reads
    exact readsValue_array body reads
  case emptyObject =>
    intro blank blanks
    exact readsValue_emptyObject blanks
  case object =>
    intro entries text body reads
    exact readsValue_object body reads
  case padded =>
    intro value before text after leading written trailing reads
    exact readsPadded leading written trailing reads
  case lastItem =>
    intro item text _ reads
    exact readsItems_last reads
  case nextItem =>
    intro item items text others _ _ first reads
    exact readsItems_next first reads
  case lastMember =>
    intro key value before name after text leading named trailing _ reads
    exact readsMembers_last leading named trailing reads
  case nextMember =>
    intro key value entries before name after text others leading named trailing _ _ first reads
    exact readsMembers_next leading named trailing first reads

theorem decode_of_writes {value : Value} {text : List Char}
    (written : WritesPadded Exact value text) (readable : Readable value) :
    decode text = .ok value := by
  obtain ⟨left, read, closed⟩ :=
    written.reads readable (2 * text.length + 1) [] (by omega) closes_nil
  rw [List.append_nil] at read
  rw [decode, readWhole, read]
  simp only [closed]
  rfl

end LayerTwo.Json
