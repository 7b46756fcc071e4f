import LayerTwo.Proofs.Result
import LayerTwo.Proofs.Text.Encoding
import LayerTwo.Version

/-! Which version is resolved. One version is due: that of the installation, else the text that the
project file declares, else the fixed one. It is what is resolved, unless a file that has to be read
spoils it: by an item other than a text where the version stands, or by a failure that goes out,
because the file is no text, is beyond the limits on a document, or has a project that is no table. -/
namespace LayerTwo.Version

open Text Toml

/-- The bytes are the text of a document of the given table. -/
def Describes (file : List UInt8) (table : Table) : Prop :=
  ∃ text : String, file = Encoding.utf8.encode text.toList ∧ read text.toList = .ok table

/-- The item stands at the version of the project. -/
def Declares (file : List UInt8) (item : Item) : Prop :=
  ∃ table project, Describes file table ∧ table.lookup "project" = some (.table project) ∧
    project.lookup "version" = some item

/-- Why an item other than a table has no names. -/
def namelessFault : Item → BadType
  | .text _ => .textIndex
  | .array _ => .sequenceIndex "list"
  | item => .notSubscriptable item.typeName

/-- The failures that come of reading a file. -/
inductive Breaks (file : List UInt8) : Failure → Prop where
  | foreign (noText : ∀ text : String, file ≠ Encoding.utf8.encode text.toList) :
      Breaks file (.undecodable (utf8Fault file))
  | tooLong {text : String} {digits : Nat} (written : file = Encoding.utf8.encode text.toList)
      (fault : read text.toList = .error (.tooLong digits)) :
      Breaks file (.badValue (.integerTooLong digits))
  | tooDeep {text : String} (written : file = Encoding.utf8.encode text.toList)
      (fault : read text.toList = .error .tooDeep) : Breaks file .tooDeep
  | nameless {table : Table} {item : Item} (described : Describes file table)
      (found : table.lookup "project" = some item) (other : ∀ project, item ≠ .table project) :
      Breaks file (.badType (namelessFault item))

theorem declares_of_read {text : String} {table project : Table} {item : Item}
    (document : read text.toList = .ok table) (found : table.lookup "project" = some (.table project))
    (stands : project.lookup "version" = some item) :
    Declares (Encoding.utf8.encode text.toList) item :=
  ⟨table, project, ⟨text, rfl, document⟩, found, stands⟩

theorem breaks_of_read {text : String} {table : Table} {item : Item}
    (document : read text.toList = .ok table) (found : table.lookup "project" = some item)
    (other : ∀ project, item ≠ .table project) :
    Breaks (Encoding.utf8.encode text.toList) (.badType (namelessFault item)) :=
  .nameless ⟨text, rfl, document⟩ found other

/-- The version that there ought to be. -/
inductive Due : (installed? : Option String) → (file? : Option (List UInt8)) → String → Prop where
  | installed (version : String) (file? : Option (List UInt8)) : Due (some version) file? version
  | declared {file : List UInt8} {version : String} (declares : Declares file (.text version)) :
      Due none (some file) version
  | fallback {file? : Option (List UInt8)}
      (silent : ∀ file version, file? = some file → ¬Declares file (.text version)) :
      Due none file? fallback

/-- The file is what the version has to be read from. -/
def Consulted (installed? : Option String) (file? : Option (List UInt8)) (file : List UInt8) : Prop :=
  installed? = none ∧ file? = some file

/-- Reading the file gives no text. -/
def Spoils (file : List UInt8) : Prop :=
  (∃ item, Declares file item ∧ ∀ version, item ≠ .text version) ∨ ∃ failure, Breaks file failure

variable {installed? : Option String} {file? : Option (List UInt8)} {file : List UInt8}
  {table : Table} {item : Item} {failure : Failure} {version : String}

/-! What a file gives -/

theorem declared_of_describes (described : Describes file table) : declared file = ofTable table := by
  obtain ⟨text, written, document⟩ := described
  simp only [declared, strictUtf8_eq_ok_iff.mpr written, document]

theorem member_of_lookup {name : String} (found : table.lookup name = some item) :
    (Item.table table).member name = .ok item := by
  simp only [Item.member, found]

theorem member_of_lookup_none {name : String} (missing : table.lookup name = none) :
    (Item.table table).member name = .error (.missingKey name) := by
  simp only [Item.member, missing]

theorem member_nameless (name : String) (other : ∀ project, item ≠ .table project) :
    item.member name = .error (.badType (namelessFault item)) := by
  cases item with
  | table project => exact absurd rfl (other project)
  | text | array | integer | float | boolean | moment => rfl

/-- What stands at the project decides what the file gives. -/
theorem declared_of_found (described : Describes file table)
    (found : table.lookup "project" = some item) :
    declared file = orFallback (item.member "version") := by
  rw [declared_of_describes described, ofTable, member_of_lookup found]
  rfl

theorem declared_of_missing (described : Describes file table)
    (missing : table.lookup "project" = none) : declared file = .ok (.text fallback) := by
  rw [declared_of_describes described, ofTable, member_of_lookup_none missing]
  rfl

theorem declared_of_declares (declares : Declares file item) : declared file = .ok item := by
  obtain ⟨table, project, described, found, stands⟩ := declares
  rw [declared_of_found described found, member_of_lookup stands]
  rfl

theorem declared_of_breaks (breaks : Breaks file failure) : declared file = .error failure := by
  cases breaks with
  | foreign noText => rw [declared, strictUtf8_of_foreign noText]
  | tooLong written fault => simp only [declared, strictUtf8_eq_ok_iff.mpr written, fault]
  | tooDeep written fault => simp only [declared, strictUtf8_eq_ok_iff.mpr written, fault]
  | nameless described found other =>
    rw [declared_of_found described found, member_nameless "version" other]
    rfl

/-- A document declares an item, or breaks, or gives the fixed version: there is nothing else. -/
theorem describes_cases (described : Describes file table) :
    (∃ item, Declares file item) ∨ (∃ failure, Breaks file failure) ∨
      declared file = .ok (.text fallback) := by
  cases found : table.lookup "project" with
  | none => exact Or.inr (Or.inr (declared_of_missing described found))
  | some item =>
    by_cases nested : ∃ project, item = .table project
    · obtain ⟨project, rfl⟩ := nested
      cases stands : project.lookup "version" with
      | some item => exact Or.inl ⟨item, table, project, described, found, stands⟩
      | none =>
        right; right
        rw [declared_of_found described found, member_of_lookup_none stands]
        rfl
    · exact Or.inr (Or.inl ⟨_, .nameless described found (not_exists.mp nested)⟩)

theorem declared_cases (file : List UInt8) :
    (∃ item, Declares file item) ∨ (∃ failure, Breaks file failure) ∨
      declared file = .ok (.text fallback) := by
  by_cases isText : ∃ text : String, file = Encoding.utf8.encode text.toList
  · obtain ⟨text, written⟩ := isText
    cases document : read text.toList with
    | ok table => exact describes_cases ⟨text, written, document⟩
    | error fault =>
      cases fault with
      | malformed =>
        right; right
        simp only [declared, strictUtf8_eq_ok_iff.mpr written, document]
      | tooLong digits => exact Or.inr (Or.inl ⟨_, .tooLong written document⟩)
      | tooDeep => exact Or.inr (Or.inl ⟨_, .tooDeep written document⟩)
  · exact Or.inr (Or.inl ⟨_, .foreign (not_exists.mp isText)⟩)

/-! Each outcome by what the file is: the three cases exclude each other because `declared` is one
function of the file. -/

theorem declared_eq_error_iff : declared file = .error failure ↔ Breaks file failure := by
  refine ⟨fun failed => ?_, declared_of_breaks⟩
  rcases declared_cases file with ⟨item, declares⟩ | ⟨other, breaks⟩ | plain
  · rw [declared_of_declares declares] at failed
    contradiction
  · rw [declared_of_breaks breaks] at failed
    cases failed
    exact breaks
  · rw [plain] at failed
    contradiction

/-- What is given is declared, except for the fixed version. -/
theorem declares_of_declared (given : declared file = .ok item) :
    Declares file item ∨ item = .text fallback := by
  rcases declared_cases file with ⟨other, declares⟩ | ⟨failure, breaks⟩ | plain
  · rw [declared_of_declares declares] at given
    cases given
    exact Or.inl declares
  · rw [declared_of_breaks breaks] at given
    contradiction
  · rw [plain] at given
    cases given
    exact Or.inr rfl

theorem declares_iff_of_other (other : ∀ version, item ≠ .text version) :
    declared file = .ok item ↔ Declares file item := by
  refine ⟨fun given => ?_, declared_of_declares⟩
  exact (declares_of_declared given).resolve_right (other fallback)

/-- A file that gives a text does not spoil the version, and one that does not spoil it gives a
text. -/
theorem not_spoils_iff : ¬Spoils file ↔ ∃ version, declared file = .ok (.text version) := by
  constructor
  · intro sound
    rcases declared_cases file with ⟨item, declares⟩ | breaks | plain
    · by_cases isText : ∃ version, item = .text version
      · obtain ⟨version, rfl⟩ := isText
        exact ⟨version, declared_of_declares declares⟩
      · exact absurd (Or.inl ⟨item, declares, not_exists.mp isText⟩) sound
    · exact absurd (Or.inr breaks) sound
    · exact ⟨fallback, plain⟩
  · rintro ⟨version, given⟩ (⟨item, declares, other⟩ | ⟨failure, breaks⟩)
    · rw [declared_of_declares declares] at given
      exact other version (Except.ok.inj given)
    · rw [declared_of_breaks breaks] at given
      contradiction

/-! The version that is due -/

theorem Due.unique {other : String} (due : Due installed? file? version)
    (again : Due installed? file? other) : version = other := by
  cases due with
  | installed => cases again; rfl
  | declared declares =>
    cases again with
    | declared declaresOther =>
      have same := (declared_of_declares declares).symm.trans (declared_of_declares declaresOther)
      exact Item.text.inj (Except.ok.inj same)
    | fallback silent => exact absurd declares (silent _ _ rfl)
  | fallback silent =>
    cases again with
    | declared declaresOther => exact absurd declaresOther (silent _ _ rfl)
    | fallback => rfl

theorem exists_due (installed? : Option String) (file? : Option (List UInt8)) :
    ∃ version, Due installed? file? version := by
  cases installed? with
  | some version => exact ⟨version, .installed version file?⟩
  | none =>
    by_cases declares : ∃ file version, file? = some file ∧ Declares file (.text version)
    · obtain ⟨file, version, rfl, declares⟩ := declares
      exact ⟨version, .declared declares⟩
    · refine ⟨fallback, ?_⟩
      apply Due.fallback
      intro file version given declared
      exact declares ⟨file, version, given, declared⟩

/-- A text that a file gives is the one that is due. -/
theorem due_of_declared (given : declared file = .ok (.text version)) :
    Due none (some file) version := by
  -- the fixed version can also be declared, so what the file declares is asked first
  by_cases declares : ∃ other, Declares file (.text other)
  · obtain ⟨other, declares⟩ := declares
    have same := (declared_of_declares declares).symm.trans given
    cases same
    exact .declared declares
  · have silent := not_exists.mp declares
    cases (declares_of_declared given).resolve_left (silent version)
    apply Due.fallback
    rintro other version ⟨⟩
    exact silent version

/-- A file that breaks declares nothing, so the fixed version is due. -/
theorem due_fallback_of_breaks (breaks : Breaks file failure) : Due none (some file) fallback := by
  apply Due.fallback
  rintro other version ⟨⟩ declares
  have given := (declared_of_declares declares).symm.trans (declared_of_breaks breaks)
  contradiction

/-! What is resolved -/

theorem resolve_of_consulted (consulted : Consulted installed? file? file) :
    resolve installed? file? = declared file := by
  obtain ⟨rfl, rfl⟩ := consulted
  rfl

/-- Either a file decides or the version that is due is given. -/
theorem resolve_cases (installed? : Option String) (file? : Option (List UInt8)) :
    (∃ file, Consulted installed? file? file ∧ resolve installed? file? = declared file) ∨
      ∃ version, resolve installed? file? = .ok (.text version) ∧ Due installed? file? version := by
  cases installed? with
  | some version => exact Or.inr ⟨version, rfl, .installed version file?⟩
  | none =>
    cases file? with
    | some file => exact Or.inl ⟨file, ⟨rfl, rfl⟩, rfl⟩
    | none =>
      refine Or.inr ⟨fallback, rfl, ?_⟩
      apply Due.fallback
      rintro file version ⟨⟩

theorem due_of_resolve (resolved : resolve installed? file? = .ok (.text version)) :
    Due installed? file? version := by
  rcases resolve_cases installed? file? with ⟨file, consulted, same⟩ | ⟨other, given, due⟩
  · obtain ⟨rfl, rfl⟩ := consulted
    exact due_of_declared resolved
  · cases resolved.symm.trans given
    exact due

theorem resolve_eq_text_iff : resolve installed? file? = .ok (.text version) ↔
    Due installed? file? version ∧ ∀ file, Consulted installed? file? file → ¬Spoils file := by
  constructor
  · intro resolved
    refine ⟨due_of_resolve resolved, ?_⟩
    intro file consulted
    apply not_spoils_iff.mpr
    exact ⟨version, (resolve_of_consulted consulted).symm.trans resolved⟩
  · rintro ⟨due, sound⟩
    have given : ∃ other, resolve installed? file? = .ok (.text other) := by
      rcases resolve_cases installed? file? with ⟨file, consulted, same⟩ | ⟨other, given, _⟩
      · rw [same]
        exact not_spoils_iff.mp (sound file consulted)
      · exact ⟨other, given⟩
    obtain ⟨other, resolved⟩ := given
    rw [resolved, (due_of_resolve resolved).unique due]

/-- A result that is no text is what a file gives that is consulted. -/
theorem resolve_eq_iff_consulted {result : Except Failure Item}
    (noText : ∀ version, result ≠ .ok (.text version)) : resolve installed? file? = result ↔
      ∃ file, Consulted installed? file? file ∧ declared file = result := by
  constructor
  · rintro rfl
    rcases resolve_cases installed? file? with ⟨file, consulted, same⟩ | ⟨version, given, _⟩
    · exact ⟨file, consulted, same.symm⟩
    · exact absurd given (noText version)
  · rintro ⟨file, consulted, rfl⟩
    exact resolve_of_consulted consulted

/-- One version is always due, and it is resolved exactly when no file that is consulted spoils it.
An item other than a text is resolved exactly when such a file declares it, and a failure goes out
exactly when such a file breaks with it. -/
theorem resolve_due_unless_spoiled (installed? : Option String) (file? : Option (List UInt8)) :
    (∃! version, Due installed? file? version) ∧
    (∀ version, resolve installed? file? = .ok (.text version) ↔
      Due installed? file? version ∧ ∀ file, Consulted installed? file? file → ¬Spoils file) ∧
    (∀ item, (∀ version, item ≠ .text version) → (resolve installed? file? = .ok item ↔
      ∃ file, Consulted installed? file? file ∧ Declares file item)) ∧
    ∀ failure, resolve installed? file? = .error failure ↔
      ∃ file, Consulted installed? file? file ∧ Breaks file failure := by
  refine ⟨?_, fun version => resolve_eq_text_iff, ?_, ?_⟩
  · obtain ⟨version, due⟩ := exists_due installed? file?
    exact ⟨version, due, fun other again => again.unique due⟩
  · intro item other
    rw [resolve_eq_iff_consulted fun version same => other version (Except.ok.inj same)]
    simp only [declares_iff_of_other other]
  · intro failure
    rw [resolve_eq_iff_consulted (by rintro version ⟨⟩)]
    simp only [declared_eq_error_iff]

/-- An empty array is resolved as it stands. -/
theorem resolve_due_unless_spoiled_array : (∀ version, Item.array [] ≠ .text version) ∧
    resolve none (some (Encoding.utf8.encode "project.version=[]".toList)) = .ok (.array []) := by
  have document : read "project.version=[]".toList =
      .ok [("project", .table [("version", .array [])])] := by
    cbv
  have declares := declares_of_read document rfl rfl
  have other : ∀ version, Item.array [] ≠ .text version := by
    rintro version ⟨⟩
  exact ⟨other, ((resolve_due_unless_spoiled _ _).2.2.1 _ other).mpr ⟨_, ⟨rfl, rfl⟩, declares⟩⟩

/-- A project that is a truth value is no table: the fixed version is due, but a failure goes out. -/
theorem resolve_flag_fails :
    Due none (some (Encoding.utf8.encode "project=true".toList)) fallback ∧
      resolve none (some (Encoding.utf8.encode "project=true".toList)) =
        .error (.badType (.notSubscriptable "bool")) := by
  have document : read "project=true".toList = .ok [("project", .boolean true)] := by
    cbv
  have breaks : Breaks (Encoding.utf8.encode "project=true".toList)
      (.badType (.notSubscriptable "bool")) :=
    breaks_of_read document rfl (by rintro project ⟨⟩)
  refine ⟨due_fallback_of_breaks breaks, ?_⟩
  rw [resolve_of_consulted ⟨rfl, rfl⟩, declared_of_breaks breaks]

end LayerTwo.Version
