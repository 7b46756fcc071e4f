import LayerTwo.Value.Equality
import Mathlib

/-! Values that count as equal. Tables with distinct keys count as equal exactly when they have the
same keys, in whatever order, and what stands at each key counts as equal. Texts, integers and lists
of texts count as equal only when they are. -/
namespace LayerTwo.Value

theorem eq_of_same_str {s t : String} (alike : same (.str s) (.str t) = true) : s = t := by
  simpa only [same, sameAtom, beq_iff_eq] using alike

theorem eq_of_same_int {m n : Int} (alike : same (.int m) (.int n) = true) : m = n := by
  simpa only [same, sameAtom, whole?, beq_iff_eq] using alike

/-- Lists whose items count as equal only when they come from the same things. -/
theorem eq_of_sameItems {α : Type} {embed : α → Value}
    (apart : ∀ x y, same (embed x) (embed y) = true → x = y) {xs ys : List α}
    (alike : sameItems (xs.map embed) (ys.map embed) = true) : xs = ys := by
  induction xs generalizing ys with
  | nil =>
    cases ys with
    | nil => rfl
    | cons => simp [sameItems] at alike
  | cons x xs ih =>
    cases ys with
    | nil => simp [sameItems] at alike
    | cons y ys =>
      simp only [List.map_cons, sameItems, Bool.and_eq_true] at alike
      rw [apart x y alike.1, ih alike.2]

theorem eq_of_same_list {α : Type} {embed : α → Value}
    (apart : ∀ x y, same (embed x) (embed y) = true → x = y) {xs ys : List α}
    (alike : same (.list (xs.map embed)) (.list (ys.map embed)) = true) : xs = ys := by
  rw [same] at alike
  exact eq_of_sameItems apart alike

/-! Tables -/

/-- Two values, where either both are given or none is. -/
def Alike (a b : Option Value) : Prop := Option.Rel (fun v w => same v w = true) a b

theorem Alike.same {v w : Value} (alike : Alike (.some v) (.some w)) : Value.same v w = true := by
  cases alike with
  | some same => exact same

theorem lookup_eq_some_of_mem {α : Type} {entries : List (String × α)}
    (distinct : (entries.map (·.1)).Nodup) {key : String} {value : α}
    (member : (key, value) ∈ entries) : entries.lookup key = some value := by
  induction entries with
  | nil => contradiction
  | cons entry rest ih =>
    simp only [List.map_cons, List.nodup_cons] at distinct
    rcases List.mem_cons.mp member with rfl | member
    · simp only [List.lookup_cons, beq_self_eq_true]
    · have other : key ≠ entry.1 := by
        rintro rfl
        exact distinct.1 (List.mem_map.mpr ⟨_, member, rfl⟩)
      rw [List.lookup_cons, beq_false_of_ne other]
      exact ih distinct.2 member

theorem mem_of_lookup_eq_some {α : Type} {entries : List (String × α)} {key : String} {value : α}
    (found : entries.lookup key = some value) : (key, value) ∈ entries := by
  obtain ⟨before, after, rfl, _⟩ := List.lookup_eq_some_iff.mp found
  exact List.mem_append_right _ List.mem_cons_self

theorem lookup_filter_ne {α : Type} (rows : List (String × α)) (name key : String) :
    (rows.filter (·.1 != name)).lookup key = if key = name then none else rows.lookup key := by
  induction rows with
  | nil => simp
  | cons row rest ih =>
    by_cases removed : row.1 = name
    · rw [List.filter_cons_of_neg (by simp [removed]), ih, List.lookup_cons]
      by_cases asked : key = name
      · rw [if_pos asked, if_pos asked]
      · rw [if_neg asked, if_neg asked, beq_false_of_ne (by rwa [removed])]
    · rw [List.filter_cons_of_pos (by simp [removed]), List.lookup_cons, List.lookup_cons, ih]
      by_cases here : key = row.1
      · subst here
        simp only [beq_self_eq_true, if_neg removed]
      · rw [beq_false_of_ne here]

theorem sameEntries_iff {a b : Entries} : sameEntries a b = true ↔
    ∀ key value, (key, value) ∈ a → ∃ other, b.lookup key = some other ∧
      same value other = true := by
  induction a with
  | nil => simp [sameEntries]
  | cons entry rest ih =>
    obtain ⟨key, value⟩ := entry
    rw [sameEntries, Bool.and_eq_true, ih]
    constructor
    · rintro ⟨first, others⟩ name item member
      rcases List.mem_cons.mp member with same | member
      · cases same
        split at first
        · rename_i other found
          exact ⟨other, found, first⟩
        · contradiction
      · exact others name item member
    · intro all
      obtain ⟨other, found, alike⟩ := all key value List.mem_cons_self
      refine ⟨by rw [found]; exact alike, ?_⟩
      intro name item member
      exact all name item (List.mem_cons_of_mem _ member)

/-- In tables that count as equal, what stands at each key does. -/
theorem alike_lookup_of_same {a b : Entries} (distinct : (a.map (·.1)).Nodup)
    (alike : same (.dict a) (.dict b) = true) (key : String) :
    Alike (a.lookup key) (b.lookup key) := by
  rw [same, Bool.and_eq_true, beq_iff_eq, sameEntries_iff] at alike
  obtain ⟨length, entries⟩ := alike
  have within : a.map (·.1) ⊆ b.map (·.1) := by
    intro name member
    obtain ⟨⟨_, value⟩, found, rfl⟩ := List.mem_map.mp member
    obtain ⟨other, present, _⟩ := entries _ value found
    exact List.mem_map.mpr ⟨_, mem_of_lookup_eq_some present, rfl⟩
  -- both have as many keys, those of the first are distinct and all in the second
  have keys : (a.map (·.1)).Perm (b.map (·.1)) :=
    (List.subperm_of_subset distinct within).perm_of_length_le (by simp [length])
  cases given : a.lookup key with
  | some value =>
    obtain ⟨other, present, alike⟩ := entries key value (mem_of_lookup_eq_some given)
    rw [present]
    exact .some alike
  | none =>
    cases present : b.lookup key with
    | none => exact .none
    | some other =>
      have member : key ∈ b.map (·.1) :=
        List.mem_map.mpr ⟨_, mem_of_lookup_eq_some present, rfl⟩
      obtain ⟨⟨_, value⟩, found, rfl⟩ := List.mem_map.mp (keys.mem_iff.mpr member)
      rw [lookup_eq_some_of_mem distinct found] at given
      contradiction

end LayerTwo.Value
