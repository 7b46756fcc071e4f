import Mathlib.Logic.Function.Basic
import LayerTwo.Proofs.Network.Lookup
import LayerTwo.Proofs.Value.Equality

/-! What requests do to a registry. The answer to a request and the view after it come from the view
before it, and whether the table is kept already makes no difference to either; so a run of requests
is answered from the first view alone. -/
namespace LayerTwo.Network

open Operation

/-- What is asked of a registry. A variable that gets no value is removed. -/
inductive Request where
  | load
  | network (name : String)
  | rpcUrl (name : String) (override : Value)
  | chainId (name : String)
  | defaultBridge (name : String) (override : Value)
  | setVariable (name : String) (value : Option String)
  | assign (name key : String) (value : Value)
  | reset

def Request.step : Request → Step
  | .load => .load
  | .network name => .network (.str name)
  | .rpcUrl name override => .rpcUrl (.str name) override
  | .chainId name => .chainId (.str name)
  | .defaultBridge name override => .defaultBridge (.str name) override
  | .setVariable name value => .setVariable (.str name) (.ofOption .str value)
  | .assign name key value => .assign (.str name) key value
  | .reset => .reset

/-- What a variable is set to; not every name and not every text can be set. -/
def settled (name : String) : Option String → Except Failure (Option String)
  | none => .ok none
  | some text => (variableValue name (.str text)).map some

namespace View

/-- What a network of the table becomes with another value at a key. -/
def assigned (view : View) (name key : String) (value : Value) : Except Failure Value := do
  (← view.network name).withItem key value

def answer (view : View) : Request → Except Failure Value
  | .load => .ok (.dict view.table)
  | .network name => view.network name
  | .rpcUrl name override => view.rpcUrl name override
  | .chainId name => (view.chainId name).map .int
  | .defaultBridge name override => view.defaultBridge name override
  | .setVariable name value => (settled name value).map fun _ => .null
  | .assign name key value => (view.assigned name key value).map fun _ => .null
  | .reset => .ok .null

/-- A variable that cannot be set and a network that cannot be changed stay as they are. -/
def next (view : View) : Request → View
  | .setVariable name value =>
    match settled name value with
    | .ok text => { view with environment := Function.update view.environment name text }
    | .error _ => view
  | .assign name key value =>
    match view.assigned name key value with
    | .ok network => { view with table := Entries.insert view.table name network }
    | .error _ => view
  | .reset => { view with table := bundled }
  | _ => view

/-- The answers to requests one after another. -/
def answers (view : View) : List Request → List (Except Failure Value)
  | [] => []
  | request :: rest => view.answer request :: (view.next request).answers rest

theorem length_answers (view : View) (requests : List Request) :
    (view.answers requests).length = requests.length := by
  induction requests generalizing view with
  | nil => rfl
  | cons request rest ih => rw [answers, List.length_cons, ih, List.length_cons]

end View

variable {registry : Registry}

/-! Variables -/

/-- The environment with a variable set, or removed. -/
def Registry.withVariable (registry : Registry) (name : String) (text : Option String) : Registry :=
  { registry with
    environment := (text.map (name, ·)).toList ++ registry.environment.filter (·.1 != name) }

theorem view_withVariable (name : String) (text : Option String) :
    (registry.withVariable name text).view = { registry.view with
      environment := Function.update registry.view.environment name text } := by
  rw [Registry.view, View.mk.injEq]
  refine ⟨?_, rfl⟩
  funext key
  by_cases asked : key = name
  · cases text <;> simp [Registry.withVariable, asked, Value.lookup_filter_ne]
  · cases text <;>
      simp [Registry.withVariable, Registry.view, asked, Value.lookup_filter_ne, List.lookup_cons,
        beq_false_of_ne asked]

theorem setVariable_eq (name : String) (value : Option String) :
    setVariable (.str name) (.ofOption .str value) registry =
      match settled name value with
      | .ok text => ⟨[], registry.withVariable name text, .ok ()⟩
      | .error failure => ⟨[], registry, .error failure⟩ := by
  cases value with
  | none => rfl
  | some text =>
    have written : settled name (some text) = (variableValue name (.str text)).map some := rfl
    rw [written]
    change (ofExcept (variableValue name (.str text)) >>= fun text => do
      set { ← get with environment := (name, text) :: (← get).environment.filter (·.1 != name) })
        registry = _
    cases variableValue name (.str text) with
    | ok text => rfl
    | error failure => rfl

theorem setVariable_effect (registry : Registry) (name : String) (value : Option String) :
    let request := Request.setVariable name value
    (request.step.run registry).result = registry.view.answer request ∧
      (request.step.run registry).state.view = registry.view.next request := by
  intro request
  have run : request.step.run =
      setVariable (.str name) (.ofOption .str value) >>= fun _ => pure Value.null := rfl
  rw [run, bind_return, setVariable_eq, View.answer, View.next]
  cases settled name value with
  | error failure => exact ⟨rfl, rfl⟩
  | ok text => exact ⟨rfl, view_withVariable name text⟩

/-! Networks -/

/-- In a table that is kept, a network that can be changed is changed where it stands. -/
theorem assign_eq (registry : Registry) (name key : String) (value : Value) : ∃ records,
    assign (.str name) key value registry =
      match registry.view.assigned name key value with
      | .ok network => ⟨records, { registry with
          table? := some (Entries.insert registry.view.table name network) }, .ok ()⟩
      | .error failure =>
        ⟨records, { registry with table? := some registry.view.table }, .error failure⟩ := by
  obtain ⟨records, ran⟩ := network_eq registry name
  unfold assign View.assigned
  cases known : registry.view.network name with
  | error failure =>
    rw [known] at ran
    refine ⟨records, ?_⟩
    rw [bind_of_error (congrArg Outcome.result ran), ran]
    rfl
  | ok network =>
    rw [known] at ran
    refine ⟨records ++ [], ?_⟩
    rw [bind_of_ok (congrArg Outcome.result ran), ran]
    change _ = match network.withItem key value with
      | .ok network => _
      | .error failure => _
    cases network.withItem key value <;> rfl

theorem assign_effect (registry : Registry) (name key : String) (value : Value) :
    let request := Request.assign name key value
    (request.step.run registry).result = registry.view.answer request ∧
      (request.step.run registry).state.view = registry.view.next request := by
  intro request
  have run : request.step.run = assign (.str name) key value >>= fun _ => pure Value.null := rfl
  obtain ⟨records, ran⟩ := assign_eq registry name key value
  rw [run, bind_return, ran, View.answer, View.next]
  cases registry.view.assigned name key value with
  | error failure => exact ⟨rfl, rfl⟩
  | ok network => exact ⟨rfl, rfl⟩

/-! Any request -/

theorem Request.effect (registry : Registry) (request : Request) :
    (request.step.run registry).result = registry.view.answer request ∧
      (request.step.run registry).state.view = registry.view.next request := by
  cases request with
  | load => exact looks_load.map Value.dict registry
  | network name => exact looks_network name registry
  | rpcUrl name override => exact looks_rpcUrl name override registry
  | chainId name => exact (looks_chainId name).map Value.int registry
  | defaultBridge name override => exact looks_defaultBridge name override registry
  | setVariable name value => exact setVariable_effect registry name value
  | assign name key value => exact assign_effect registry name key value
  | reset => exact ⟨rfl, rfl⟩

/-- A run of requests is answered from the view before it. -/
theorem runAll_requests (registry : Registry) (requests : List Request) :
    (runAll (requests.map (·.step.run)) registry).result = .ok (registry.view.answers requests) := by
  induction requests generalizing registry with
  | nil => rfl
  | cons request rest ih =>
    obtain ⟨answered, left⟩ := request.effect registry
    rw [View.answers, ← answered, ← left]
    exact result_runAll_cons (ih _)

end LayerTwo.Network
