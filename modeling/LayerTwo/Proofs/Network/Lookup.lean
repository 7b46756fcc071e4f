import LayerTwo.Network.Registry
import LayerTwo.Proofs.Operation

/-! What a lookup depends on: the variables of the environment, and the table that a lookup would
find. Whether that table is kept already or is still to be read makes no difference to any lookup,
and no lookup changes it. -/
namespace LayerTwo.Network

open Operation

/-- The environment, and the table that lookups find. -/
structure View where
  environment : String → Option String
  table : Entries

/-- The table is the one that is kept, else the bundled one. -/
def Registry.view (registry : Registry) : View where
  environment name := registry.environment.lookup name
  table := registry.table?.getD bundled

namespace View

variable (view : View)

def network (name : String) : Except Failure Value :=
  match view.table.lookup name with
  | some network => .ok network
  | none => .error (.badValue (.unknownNetwork (.str name) (sortedNames view.table)))

/-- The value of a network's variable, if it is not empty. -/
def setting? (setting : Setting) (name : String) : Option String :=
  (view.environment (variableName name setting)).filter (!·.isEmpty)

def rpcUrl (name : String) (override : Value) : Except Failure Value :=
  if override.truthy then .ok override
  else
    match view.setting? .rpcUrl name with
    | some url => .ok (.str url)
    | none => do (← view.network name).item "rpc"

def chainId (name : String) : Except Failure Int := do
  (← (← view.network name).item "chainId").toInteger

def defaultBridge (name : String) (override : Value) : Except Failure Value :=
  if override.truthy then bridgeAddress override
  else
    match view.setting? .bridge name with
    | some address => bridgeAddress (.str address)
    | none => do
      let bridge ← (← view.network name).itemOrNull "l2DefaultBridge"
      if bridge.isNull then .ok .null else bridgeAddress bridge

end View

section Registry

variable {registry : Registry} {setting : Setting} {name : String}

theorem Registry.setting?_of_set {text : String}
    (set : registry.environment.lookup (variableName name setting) = some text)
    (nonempty : text ≠ "") : registry.view.setting? setting name = some text := by
  simp [View.setting?, Registry.view, set, nonempty]

theorem Registry.setting?_of_unset
    (unset : ∀ text, registry.environment.lookup (variableName name setting) = some text →
      text = "") : registry.view.setting? setting name = none := by
  simpa [View.setting?, Registry.view] using unset

end Registry

/-! Lookups -/

variable {α β : Type}

/-- The result comes from what is in view, and the view stays as it is. -/
def Looks (operation : Operation Registry α) (result : View → Except Failure α) : Prop :=
  ∀ registry, (operation registry).result = result registry.view ∧
    (operation registry).state.view = registry.view

theorem looks_ofExcept (result : Except Failure α) : Looks (ofExcept result) fun _ => result :=
  fun _ => ⟨rfl, rfl⟩

theorem looks_pure (a : α) : Looks (pure a) fun _ => .ok a := fun _ => ⟨rfl, rfl⟩

theorem looks_log (level : Level) (area : Area) (message : String) :
    Looks (log level area message) fun _ => .ok () := fun _ => ⟨rfl, rfl⟩

theorem Looks.bind {operation : Operation Registry α} {next : α → Operation Registry β}
    {result : View → Except Failure α} {rest : α → View → Except Failure β}
    (first : Looks operation result) (continued : ∀ a, Looks (next a) (rest a)) :
    Looks (operation >>= next) fun view => result view >>= fun a => rest a view := by
  intro registry
  obtain ⟨found, kept⟩ := first registry
  change _ = (result registry.view >>= fun a => rest a registry.view) ∧ _
  rw [← found]
  cases ran : (operation registry).result with
  | error failure =>
    rw [bind_of_error ran]
    exact ⟨rfl, kept⟩
  | ok a =>
    obtain ⟨foundNext, keptNext⟩ := continued a (operation registry).state
    rw [bind_of_ok ran]
    exact ⟨foundNext.trans (congrArg (rest a) kept), keptNext.trans kept⟩

theorem Looks.map {operation : Operation Registry α} {result : View → Except Failure α}
    (looks : Looks operation result) (f : α → β) :
    Looks (f <$> operation) fun view => (result view).map f := by
  rw [map_eq_pure_bind]
  intro registry
  obtain ⟨found, kept⟩ := (looks.bind fun a => looks_pure (f a)) registry
  refine ⟨found.trans ?_, kept⟩
  cases result registry.view <;> rfl

/-- Loading keeps the table that was in view. -/
theorem load_eq (registry : Registry) : ∃ records, load registry =
    ⟨records, { registry with table? := some registry.view.table }, .ok registry.view.table⟩ := by
  obtain ⟨environment, table?⟩ := registry
  cases table? with
  | none => exact ⟨_, rfl⟩
  | some table => exact ⟨_, rfl⟩

theorem looks_load : Looks load fun view => .ok view.table := by
  intro registry
  obtain ⟨records, loaded⟩ := load_eq registry
  rw [loaded]
  exact ⟨rfl, rfl⟩

theorem network_eq (registry : Registry) (name : String) : ∃ records,
    network (.str name) registry = ⟨records, { registry with table? := some registry.view.table },
      registry.view.network name⟩ := by
  obtain ⟨records, loaded⟩ := load_eq registry
  refine ⟨records ++ [], ?_⟩
  change (load >>= fun table => ofExcept (find table (.str name))) registry = _
  rw [bind_of_ok (congrArg Outcome.result loaded), loaded]
  rfl

theorem looks_network (name : String) :
    Looks (network (.str name)) fun view => view.network name := by
  intro registry
  obtain ⟨records, ran⟩ := network_eq registry name
  rw [ran]
  exact ⟨rfl, rfl⟩

/-- Where a variable is asked first, what is done without it looks on. -/
theorem looks_setting {set : String → Operation Registry α} {unset : Operation Registry α}
    {given : String → View → Except Failure α} {absent : View → Except Failure α}
    (setting : Setting) (name : String) (ifSet : ∀ text, Looks (set text) (given text))
    (ifUnset : Looks unset absent) :
    Looks (setting? setting (.str name) >>= fun
      | some text => set text
      | none => unset) fun view =>
      match view.setting? setting name with
      | some text => given text view
      | none => absent view := by
  have asked : Looks (setting? setting (.str name)) fun view =>
      .ok (view.setting? setting name) := fun _ => ⟨rfl, rfl⟩
  have either : ∀ found : Option String,
      Looks (match found with
        | some text => set text
        | none => unset) fun view =>
        match found with
        | some text => given text view
        | none => absent view := by
    intro found
    cases found with
    | some text => exact ifSet text
    | none => exact ifUnset
  exact asked.bind either

theorem looks_rpcUrl (name : String) (override : Value) :
    Looks (rpcUrl (.str name) override) fun view => view.rpcUrl name override := by
  by_cases given : override.truthy
  · simp only [rpcUrl, View.rpcUrl, given, if_true]
    exact looks_pure override
  · simp only [rpcUrl, View.rpcUrl, given, Bool.false_eq_true, if_false]
    refine looks_setting .rpcUrl name (fun url => looks_pure _) ?_
    exact (looks_network name).bind fun _ => looks_ofExcept _

theorem looks_chainId (name : String) :
    Looks (chainId (.str name)) fun view => view.chainId name :=
  (looks_network name).bind fun _ => (looks_ofExcept _).bind fun _ => looks_ofExcept _

theorem looks_defaultBridge (name : String) (override : Value) :
    Looks (defaultBridge (.str name) override) fun view => view.defaultBridge name override := by
  by_cases given : override.truthy
  · simp only [defaultBridge, View.defaultBridge, given, if_true]
    exact looks_ofExcept _
  · simp only [defaultBridge, View.defaultBridge, given, Bool.false_eq_true, if_false]
    refine looks_setting .bridge name (fun address => looks_ofExcept _) ?_
    refine (looks_network name).bind fun found => (looks_ofExcept _).bind fun bridge => ?_
    by_cases none : bridge.isNull
    · simp only [none, if_true]
      exact (looks_log _ _ _).bind fun _ => looks_pure _
    · simp only [none, Bool.false_eq_true, if_false]
      exact looks_ofExcept _

end LayerTwo.Network
