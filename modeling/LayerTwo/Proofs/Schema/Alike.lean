import LayerTwo.Schema.Field
import Mathlib

/-! Inputs that a check cannot tell apart. A field is checked by what stands under its names only, so
two tables with alike values there, or with none, get the same result, be it a value or issues. -/
namespace LayerTwo.Schema

variable {α : Type} {check : Value → Checked α} {a b : Entries}

theorem find?_rel {related : Value → Value → Prop} {names : List String}
    (given : ∀ name ∈ names, Option.Rel related (a.lookup name) (b.lookup name)) :
    Option.Rel (fun x y => x.1 = y.1 ∧ related x.2 y.2) (find? a names) (find? b names) := by
  induction names with
  | nil => exact .none
  | cons name names ih =>
    have first := given name List.mem_cons_self
    have rest := ih fun other member => given other (List.mem_cons_of_mem _ member)
    unfold find?
    generalize a.lookup name = left at first
    generalize b.lookup name = right at first
    cases first with
    | some related => exact .some ⟨rfl, related⟩
    | none => exact rest

section Fields

variable {related : Value → Value → Prop} (agree : ∀ v w, related v w → check v = check w)
  {name : Name} (given : ∀ spelling ∈ name.spellings,
    Option.Rel related (a.lookup spelling) (b.lookup spelling))
include agree given

theorem required_congr : required a name check = required b name check := by
  have found := find?_rel given
  unfold required
  generalize find? a name.spellings = left at found
  generalize find? b name.spellings = right at found
  cases found with
  | some both =>
    obtain ⟨spelling, alike⟩ := both
    simp only [spelling, agree _ _ alike]
  | none => rfl

theorem optional_congr (default : α) :
    optional a name default check = optional b name default check := by
  have found := find?_rel given
  unfold optional
  generalize find? a name.spellings = left at found
  generalize find? b name.spellings = right at found
  cases found with
  | some both =>
    obtain ⟨spelling, alike⟩ := both
    simp only [spelling, agree _ _ alike]
  | none => rfl

end Fields

/-- No check can tell equal entries apart. -/
theorem rel_of_eq {given other : Option Value} (same : given = other) :
    Option.Rel Eq given other := by
  subst same
  cases given with
  | some value => exact .some rfl
  | none => exact .none

/-- A field without an alias has its name as its only spelling. -/
theorem forall_spellings {holds : String → Prop} {name : String} (here : holds name) :
    ∀ spelling ∈ Name.spellings name, holds spelling := by
  intro spelling member
  obtain rfl := List.mem_singleton.mp member
  exact here

section Same

variable {name : Name} (same : ∀ spelling ∈ name.spellings, a.lookup spelling = b.lookup spelling)
include same

theorem required_of_same : required a name check = required b name check :=
  required_congr (fun _ _ same => congrArg _ same) fun spelling member =>
    rel_of_eq (same spelling member)

theorem optional_of_same (default : α) :
    optional a name default check = optional b name default check :=
  optional_congr (fun _ _ same => congrArg _ same)
    (fun spelling member => rel_of_eq (same spelling member)) default

end Same

theorem nullable_congr {v w : Value} (null : v = .null ↔ w = .null) (same : check v = check w) :
    nullable check v = nullable check w := by
  by_cases left : v = .null
  · rw [left, null.mp left]
  · have right : w ≠ .null := fun none => left (null.mpr none)
    have kept : ∀ value, value ≠ .null → nullable check value = (check value).map some := by
      intro value given
      unfold nullable
      split
      · contradiction
      · rfl
    rw [kept v left, kept w right, same]

theorem items_congr {xs ys : List Value} (each : List.Forall₂ (fun x y => check x = check y) xs ys)
    (start : Nat) : Checked.items check start xs = Checked.items check start ys := by
  induction each generalizing start with
  | nil => rfl
  | cons first _ ih => simp only [Checked.items, first, ih]

end LayerTwo.Schema
