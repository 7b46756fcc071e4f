import LayerTwo.Proofs.Network.Request
import LayerTwo.Proofs.Value.Equality

/-! The registry against a plain one that keeps no table: it remembers what has been changed since
the last reset and takes every answer from the bundled table with those changes. From an empty
registry on, no run of lookups, changes and resets tells the two apart. -/
namespace LayerTwo.Network

open Operation

/-! The plain registry -/

/-- A setting that a network is given. -/
structure Change where
  network : String
  key : String
  value : Value

/-- A network of the bundled table with the changes to it, in their order. -/
def changed (changes : List Change) (name : String) : Value → Value
  | .dict settings => .dict (Entries.insertAll settings
      ((changes.filter (·.network = name)).map fun change => (change.key, change.value)))
  | other => other

def changedTable (changes : List Change) : Entries :=
  bundled.map fun (name, network) => (name, changed changes name network)

/-- The environment, and the changes since the last reset. -/
structure Plain where
  environment : String → Option String
  changes : List Change

def Plain.view (plain : Plain) : View := ⟨plain.environment, changedTable plain.changes⟩

namespace Plain

def answer (plain : Plain) : Request → Except Failure Value
  | .load => .ok (.dict plain.view.table)
  | .network name => plain.view.network name
  | .rpcUrl name override => plain.view.rpcUrl name override
  | .chainId name => (plain.view.chainId name).map .int
  | .defaultBridge name override => plain.view.defaultBridge name override
  | .setVariable name value => (settled name value).map fun _ => .null
  | .assign name _ _ => (plain.view.network name).map fun _ => .null
  | .reset => .ok .null

/-- A variable that cannot be set and a network that is not known stay as they are. -/
def next (plain : Plain) : Request → Plain
  | .setVariable name value =>
    match settled name value with
    | .ok text => { plain with environment := Function.update plain.environment name text }
    | .error _ => plain
  | .assign name key value =>
    match plain.view.network name with
    | .ok _ => { plain with changes := plain.changes ++ [⟨name, key, value⟩] }
    | .error _ => plain
  | .reset => { plain with changes := [] }
  | _ => plain

/-- The answers to requests one after another. -/
def answers (plain : Plain) : List Request → List (Except Failure Value)
  | [] => []
  | request :: rest => plain.answer request :: (plain.next request).answers rest

end Plain

/-! Changes of the table -/

theorem dict_of_mem_bundled {name : String} {network : Value} (member : (name, network) ∈ bundled) :
    ∃ settings, network = .dict settings := by
  simp only [bundled, List.mem_cons, Prod.mk.injEq, List.not_mem_nil, or_false] at member
  rcases member with ⟨_, rfl⟩ | ⟨_, rfl⟩ | ⟨_, rfl⟩
  · exact ⟨_, rfl⟩
  · exact ⟨_, rfl⟩
  · exact ⟨_, rfl⟩

/-- A table in which one row is rewritten is the table with another item in the place of its key. -/
theorem insertAt_map {α β : Type} {rows : List (String × α)} {f g : String → α → β} {name : String}
    {item : α} (distinct : (rows.map Prod.fst).Nodup) (member : (name, item) ∈ rows)
    (others : ∀ key, key ≠ name → g key = f key) :
    insertAt name (g name item) (rows.map fun row => (row.1, f row.1 row.2)) =
      rows.map fun row => (row.1, g row.1 row.2) := by
  induction rows with
  | nil => contradiction
  | cons row rest ih =>
    obtain ⟨new, distinct⟩ := List.nodup_cons.mp distinct
    rw [List.map_cons, List.map_cons, insertAt]
    rcases List.mem_cons.mp member with rfl | member
    · rw [if_pos rfl]
      congr 1
      refine List.map_congr_left fun row found => ?_
      have other : row.1 ≠ name := by
        rintro rfl
        exact new (List.mem_map.mpr ⟨row, found, rfl⟩)
      rw [others row.1 other]
    · have other : row.1 ≠ name := by
        rintro rfl
        exact new (List.mem_map.mpr ⟨_, member, rfl⟩)
      rw [if_neg other, ih distinct member, others row.1 other]

theorem changed_other {changes : List Change} {change : Change} {name : String}
    (other : name ≠ change.network) :
    changed (changes ++ [change]) name = changed changes name := by
  funext network
  cases network <;> simp [changed, Ne.symm other]

theorem changed_same (changes : List Change) (change : Change) (settings : Entries) :
    changed (changes ++ [change]) change.network (.dict settings) =
      .dict (Entries.insert (Entries.insertAll settings
        ((changes.filter (·.network = change.network)).map fun change =>
          (change.key, change.value))) change.key change.value) := by
  simp [changed, Entries.insertAll]

/-- A change of a known network takes its place in the table as it is so far. -/
theorem changedTable_append {changes : List Change} {change : Change} {network : Value}
    (known : (changedTable changes).lookup change.network = some network) :
    ∃ settings, network = .dict settings ∧
      changedTable (changes ++ [change]) = Entries.insert (changedTable changes) change.network
        (.dict (Entries.insert settings change.key change.value)) := by
  have member := Value.mem_of_lookup_eq_some known
  obtain ⟨⟨name, original⟩, found, same⟩ := List.mem_map.mp member
  obtain ⟨rfl, rfl⟩ := Prod.mk.inj same
  obtain ⟨settings, rfl⟩ := dict_of_mem_bundled found
  refine ⟨_, rfl, ?_⟩
  rw [← changed_same]
  exact (insertAt_map (by simp [bundled]) found fun key other => changed_other other).symm

theorem lookup_of_network {view : View} {name : String} {network : Value}
    (known : view.network name = .ok network) : view.table.lookup name = some network := by
  unfold View.network at known
  split at known
  · cases known
    assumption
  · contradiction

/-! Requests -/

/-- The registry that is in view answers the request as the plain one does, and its view is that of
the plain one afterwards. -/
def Agrees (plain : Plain) (request : Request) : Prop :=
  plain.view.answer request = plain.answer request ∧
    plain.view.next request = (plain.next request).view

theorem agrees_setVariable (plain : Plain) (name : String) (value : Option String) :
    Agrees plain (.setVariable name value) := by
  rw [Agrees, View.next, Plain.next]
  cases settled name value with
  | error failure => exact ⟨rfl, rfl⟩
  | ok text => exact ⟨rfl, rfl⟩

theorem agrees_assign (plain : Plain) (name key : String) (value : Value) :
    Agrees plain (.assign name key value) := by
  rw [Agrees, View.answer, View.next, Plain.answer, Plain.next, View.assigned]
  cases known : plain.view.network name with
  | error failure => exact ⟨rfl, rfl⟩
  | ok network =>
    have found := lookup_of_network known
    obtain ⟨settings, rfl, table⟩ := @changedTable_append plain.changes ⟨name, key, value⟩ _ found
    refine ⟨rfl, ?_⟩
    -- the changed table is kept on the one side and computed anew on the other
    change View.mk plain.environment (Entries.insert (changedTable plain.changes) name _) =
      ⟨plain.environment, changedTable (plain.changes ++ [_])⟩
    rw [table]

theorem agrees (plain : Plain) (request : Request) : Agrees plain request := by
  cases request with
  | setVariable name value => exact agrees_setVariable plain name value
  | assign name key value => exact agrees_assign plain name key value
  | _ => exact ⟨rfl, rfl⟩

theorem answers_view (plain : Plain) (requests : List Request) :
    plain.view.answers requests = plain.answers requests := by
  induction requests generalizing plain with
  | nil => rfl
  | cons request rest ih =>
    obtain ⟨answered, left⟩ := agrees plain request
    rw [View.answers, Plain.answers, answered, left, ih]

theorem runAll_answers {registry : Registry} {plain : Plain} (same : registry.view = plain.view)
    (requests : List Request) :
    (runAll (requests.map (·.step.run)) registry).result = .ok (plain.answers requests) := by
  rw [runAll_requests, same, answers_view]

/-- Whatever is asked of a registry, in whatever order, from when it keeps no table yet: it answers
as the plain one does. -/
theorem run_answers (environment : List (String × String)) (requests : List Request) :
    (runAll (requests.map (·.step.run)) ⟨environment, none⟩).result =
      .ok (Plain.answers ⟨(environment.lookup ·), []⟩ requests) :=
  runAll_answers rfl requests

/-- A change is seen until the next reset. -/
example : Plain.answers ⟨fun _ => none, []⟩
    [.assign "local" "rpc" (.str "own"), .rpcUrl "local" .null, .reset, .rpcUrl "local" .null] =
      [.ok .null, .ok (.str "own"), .ok .null, .ok (.str "http://localhost:3050")] := rfl

end LayerTwo.Network
