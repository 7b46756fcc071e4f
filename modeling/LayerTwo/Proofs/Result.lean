import Mathlib

/-! Success of a computation that is made of others. It succeeds exactly when each of them does, on
what the ones before it give. -/
namespace LayerTwo.Result

variable {ε ε' α β : Type}

theorem bind_eq_ok_iff {first : Except ε α} {next : α → Except ε β} {b : β} :
    (first >>= next) = .ok b ↔ ∃ a, first = .ok a ∧ next a = .ok b := by
  cases first with
  | ok a =>
    change next a = .ok b ↔ _
    simp
  | error fault =>
    change Except.error fault = .ok b ↔ _
    simp

theorem bind_eq_error_iff {first : Except ε α} {next : α → Except ε β} {fault : ε} :
    (first >>= next) = .error fault ↔
      first = .error fault ∨ ∃ a, first = .ok a ∧ next a = .error fault := by
  cases first with
  | ok a =>
    change next a = .error fault ↔ _
    simp
  | error other =>
    change Except.error other = .error fault ↔ _
    simp

theorem map_eq_ok_iff {first : Except ε α} {f : α → β} {b : β} :
    first.map f = .ok b ↔ ∃ a, first = .ok a ∧ f a = b := by
  cases first <;> simp [Except.map]

theorem mapError_eq_ok_iff {first : Except ε α} {f : ε → ε'} {a : α} :
    first.mapError f = .ok a ↔ first = .ok a := by
  cases first <;> simp [Except.mapError]

theorem map_eq_error_iff {first : Except ε α} {f : α → β} {fault : ε} :
    first.map f = .error fault ↔ first = .error fault := by
  cases first <;> simp [Except.map]

theorem mapError_eq_error_iff {first : Except ε α} {f : ε → ε'} {fault : ε'} :
    first.mapError f = .error fault ↔ ∃ cause, first = .error cause ∧ f cause = fault := by
  cases first <;> simp [Except.mapError]

theorem mapM_eq_ok_iff {read : α → Except ε β} {items : List α} {results : List β} :
    items.mapM read = .ok results ↔
      List.Forall₂ (fun item result => read item = .ok result) items results := by
  induction items generalizing results with
  | nil =>
    change Except.ok [] = .ok results ↔ _
    cases results <;> simp
  | cons item rest ih =>
    simp only [List.mapM_cons, bind_eq_ok_iff, ih]
    constructor
    · rintro ⟨first, head, others, tail, same⟩
      cases same
      exact .cons head tail
    · intro all
      cases all with
      | cons head tail => exact ⟨_, head, _, tail, rfl⟩

theorem mapM_eq_ok_map {read : α → Except ε β} {items : List α} {results : α → β}
    (each : ∀ item ∈ items, read item = .ok (results item)) :
    items.mapM read = .ok (items.map results) := by
  rw [mapM_eq_ok_iff, List.forall₂_map_right_iff, List.forall₂_same]
  exact each

theorem mapM_ok_of_mem {read : α → Except ε β} {items : List α} {results : List β} {item : α}
    (all : items.mapM read = .ok results) (member : item ∈ items) :
    ∃ result ∈ results, read item = .ok result := by
  have pairs := mapM_eq_ok_iff.mp all
  clear all
  induction pairs with
  | nil => contradiction
  | @cons first result _ _ head _ ih =>
    rcases List.mem_cons.mp member with rfl | member
    · exact ⟨result, List.mem_cons_self, head⟩
    · obtain ⟨other, found, accepted⟩ := ih member
      exact ⟨other, List.mem_cons_of_mem _ found, accepted⟩

/-- A run over items that fails does so at the first one that is refused. -/
theorem mapM_eq_error {read : α → Except ε β} {items : List α} {fault : ε}
    (failed : items.mapM read = .error fault) : ∃ good bad rest, items = good ++ bad :: rest ∧
      (∀ item ∈ good, ∃ result, read item = .ok result) ∧ read bad = .error fault := by
  induction items with
  | nil => contradiction
  | cons item rest ih =>
    rw [List.mapM_cons] at failed
    cases head : read item with
    | error first =>
      rw [head] at failed
      cases failed
      exact ⟨[], item, rest, rfl, List.forall_mem_nil _, head⟩
    | ok result =>
      rw [head] at failed
      change (rest.mapM read >>= fun results => pure (result :: results)) = _ at failed
      cases tail : rest.mapM read with
      | error later =>
        rw [tail] at failed
        cases failed
        obtain ⟨good, bad, others, rfl, accepted, refused⟩ := ih tail
        exact ⟨item :: good, bad, others, rfl,
          List.forall_mem_cons.mpr ⟨⟨result, head⟩, accepted⟩, refused⟩
      | ok results =>
        rw [tail] at failed
        contradiction

end LayerTwo.Result
