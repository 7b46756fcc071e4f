import LayerTwo.Schema.Field
import Mathlib

/-! What an accepted input says about its parts. A check of several fields accepts exactly when the
check of each field does; a field is accepted when it is given and its own check accepts it, or when
it may be left out. -/
namespace LayerTwo.Schema

variable {α β : Type}

namespace Checked

theorem map_eq_ok_iff {f : α → β} {a : Checked α} {b : β} :
    f <$> a = .ok b ↔ ∃ x, a = .ok x ∧ f x = b := by
  cases a with
  | ok x =>
    change Checked.ok (f x) = .ok b ↔ _
    simp
  | faulty issues =>
    change Checked.faulty issues = .ok b ↔ _
    simp

theorem seq_eq_ok_iff {f : Checked (α → β)} {a : Checked α} {b : β} :
    f <*> a = .ok b ↔ ∃ g x, f = .ok g ∧ a = .ok x ∧ g x = b := by
  change apply f a = .ok b ↔ _
  cases f <;> cases a <;> simp [apply]

theorem andThen_eq_ok_iff {a : Checked α} {next : α → Checked β} {b : β} :
    a.andThen next = .ok b ↔ ∃ x, a = .ok x ∧ next x = .ok b := by
  cases a <;> simp [andThen]

theorem under_eq_ok_iff {step : Step} {a : Checked α} {x : α} :
    a.under step = .ok x ↔ a = .ok x := by
  cases a <;> simp [under]

theorem items_eq_ok_iff {check : Value → Checked α} {start : Nat} {items : List Value}
    {results : List α} : Checked.items check start items = .ok results ↔
      List.Forall₂ (fun item result => check item = .ok result) items results := by
  induction items generalizing start results with
  | nil => cases results <;> simp [Checked.items]
  | cons item rest ih =>
    simp only [Checked.items, seq_eq_ok_iff, map_eq_ok_iff, under_eq_ok_iff, ih]
    constructor
    · rintro ⟨_, tail, ⟨head, accepted, rfl⟩, others, rfl⟩
      exact .cons accepted others
    · intro all
      cases all with
      | cons accepted others => exact ⟨_, _, ⟨_, accepted, rfl⟩, others, rfl⟩

/-- The check fails and reports the issue, among others perhaps. -/
def Finds (checked : Checked α) (issue : Issue) : Prop :=
  ∃ issues, checked = .faulty issues ∧ issue ∈ issues

section Finds

variable {issue : Issue}

theorem finds_fault (fault : Fault) : (Checked.fault fault : Checked α).Finds ⟨[], fault⟩ :=
  ⟨_, rfl, List.mem_singleton_self _⟩

theorem Finds.left {f : Checked (α → β)} (found : f.Finds issue) (a : Checked α) :
    (f <*> a).Finds issue := by
  obtain ⟨issues, rfl, member⟩ := found
  cases a with
  | ok a => exact ⟨issues, rfl, member⟩
  | faulty others => exact ⟨issues ++ others, rfl, List.mem_append_left _ member⟩

theorem Finds.right {a : Checked α} (found : a.Finds issue) (f : Checked (α → β)) :
    (f <*> a).Finds issue := by
  obtain ⟨issues, rfl, member⟩ := found
  cases f with
  | ok f => exact ⟨issues, rfl, member⟩
  | faulty others => exact ⟨others ++ issues, rfl, List.mem_append_right _ member⟩

theorem Finds.andThen {a : Checked α} (found : a.Finds issue) (next : α → Checked β) :
    (a.andThen next).Finds issue := by
  obtain ⟨issues, rfl, member⟩ := found
  exact ⟨issues, rfl, member⟩

theorem Finds.map {a : Checked α} (found : a.Finds issue) (f : α → β) : (a.map f).Finds issue := by
  obtain ⟨issues, rfl, member⟩ := found
  exact ⟨issues, rfl, member⟩

theorem Finds.under {a : Checked α} (found : a.Finds issue) (step : Step) :
    (a.under step).Finds { issue with path := step :: issue.path } := by
  obtain ⟨issues, rfl, member⟩ := found
  exact ⟨_, rfl, List.mem_map_of_mem member⟩

end Finds

end Checked

theorem natural_eq_ok {value : Value} {n : Int} (accepted : natural value = .ok n) : 0 ≤ n := by
  obtain ⟨m, _, kept⟩ := Checked.andThen_eq_ok_iff.mp accepted
  split_ifs at kept with negative
  · contradiction
  · cases kept
    omega

theorem natural_int {n : Int} (nonneg : 0 ≤ n) : natural (.int n) = .ok n := by
  simp only [natural, integer, Checked.andThen, if_neg (not_lt.mpr nonneg)]

theorem nullable_eq_ok {check : Value → Checked α} {value : Value} {result : Option α}
    (accepted : nullable check value = .ok result) {a : α} (given : result = some a) :
    check value = .ok a := by
  unfold nullable at accepted
  split at accepted
  · cases accepted
    contradiction
  · cases checked : check value with
    | ok x =>
      rw [checked] at accepted
      cases accepted
      cases given
      rfl
    | faulty issues =>
      rw [checked] at accepted
      contradiction

theorem nullable_ofOption {check : Value → Checked α} {embed : α → Value}
    {field : Option α}
    (accepted : ∀ a, field = some a → embed a ≠ .null ∧ check (embed a) = .ok a) :
    nullable check (.ofOption embed field) = .ok field := by
  cases field with
  | none => rfl
  | some a =>
    obtain ⟨given, checked⟩ := accepted a rfl
    change nullable check (embed a) = .ok (some a)
    unfold nullable
    split
    · contradiction
    · rw [checked]
      rfl

theorem nullable_natural {fee : Option Int} (nonneg : ∀ n, fee = some n → 0 ≤ n) :
    nullable natural (.ofOption .int fee) = .ok fee :=
  nullable_ofOption fun n given => ⟨by simp, natural_int (nonneg n given)⟩

theorem nullable_of_ok {check : Value → Checked α} {value : Value} {a : α}
    (given : value ≠ .null) (accepted : check value = .ok a) :
    nullable check value = .ok (some a) := by
  unfold nullable
  split
  · contradiction
  · rw [accepted]
    rfl

theorem sequence_eq_ok {check : Value → Checked α} {value : Value} {results : List α}
    (accepted : sequence check value = .ok results) {a : α} (member : a ∈ results) :
    ∃ item, check item = .ok a := by
  have found : ∀ items : List Value, Checked.items check 0 items = .ok results →
      ∃ item, check item = .ok a := by
    intro items all
    have pairs := Checked.items_eq_ok_iff.mp all
    clear all accepted
    induction pairs with
    | nil => contradiction
    | @cons item result _ _ checked _ ih =>
      rcases List.mem_cons.mp member with rfl | member
      · exact ⟨item, checked⟩
      · exact ih member
  unfold sequence at accepted
  split at accepted
  · exact found _ accepted
  · exact found _ accepted
  · exact found _ accepted
  · contradiction

theorem address_eq_ok_iff {value : Value} {form : String} :
    address value = .ok form ↔ Address.read value = .ok form := by
  unfold address
  split <;> simp_all [Checked.fault]

theorem address_eq_fault {value : Value} {fault : Address.Fault}
    (refused : Address.read value = .error fault) :
    address value = .fault (.refused (.address fault)) := by
  simp only [address, refused]

/-! Fields by name -/

theorem required_eq_ok {inputs : Entries} {name : Name} {check : Value → Checked α} {a : α}
    (accepted : required inputs name check = .ok a) : ∃ value, check value = .ok a := by
  unfold required at accepted
  split at accepted
  · exact ⟨_, Checked.under_eq_ok_iff.mp accepted⟩
  · contradiction

theorem optional_eq_ok {inputs : Entries} {name : Name} {default a : α}
    {check : Value → Checked α} (accepted : optional inputs name default check = .ok a) :
    a = default ∨ ∃ value, check value = .ok a := by
  unfold optional at accepted
  split at accepted
  · exact Or.inr ⟨_, Checked.under_eq_ok_iff.mp accepted⟩
  · cases accepted
    exact Or.inl rfl

theorem find?_of_lookup {inputs : Entries} {name : String} (value : Value)
    (given : inputs.lookup name = some value) (others : List String) :
    find? inputs (name :: others) = some (name, value) := by
  simp only [find?, given]

theorem required_given {inputs : Entries} {name : Name} {check : Value → Checked α}
    {spelling : String} {value : Value}
    (given : find? inputs name.spellings = some (spelling, value)) :
    required inputs name check = (check value).under (.key spelling) := by
  simp only [required, given]

theorem required_of_find? {inputs : Entries} {name : Name} {check : Value → Checked α}
    {spelling : String} {value : Value} {a : α}
    (given : find? inputs name.spellings = some (spelling, value)) (accepted : check value = .ok a) :
    required inputs name check = .ok a :=
  (required_given given).trans (Checked.under_eq_ok_iff.mpr accepted)

theorem optional_given {inputs : Entries} {name : Name} {default : α} {check : Value → Checked α}
    {spelling : String} {value : Value}
    (given : find? inputs name.spellings = some (spelling, value)) :
    optional inputs name default check = (check value).under (.key spelling) := by
  simp only [optional, given]

theorem finds_optional {inputs : Entries} {name : Name} {check : Value → Checked α}
    {spelling : String} {value : Value} {issue : Issue}
    (given : find? inputs name.spellings = some (spelling, value))
    (found : (check value).Finds issue) (default : α) :
    (optional inputs name default check).Finds
      { issue with path := .key spelling :: issue.path } := by
  rw [optional_given given]
  exact found.under _

theorem optional_of_find? {inputs : Entries} {name : Name} {default a : α}
    {check : Value → Checked α} {spelling : String} {value : Value}
    (given : find? inputs name.spellings = some (spelling, value)) (accepted : check value = .ok a) :
    optional inputs name default check = .ok a :=
  (optional_given given).trans (Checked.under_eq_ok_iff.mpr accepted)

theorem optional_of_lookup {inputs : Entries} {name : String} {check : Value → Checked α}
    (default : α) (missing : inputs.lookup name = none) :
    optional inputs name default check = .ok default := by
  have unfound : find? inputs [name] = none := by
    simp only [find?, missing]
  simp only [optional, Name.spellings, Option.toList_none, List.nil_append, unfound]

end LayerTwo.Schema
