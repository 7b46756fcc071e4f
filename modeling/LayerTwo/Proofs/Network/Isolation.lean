import Mathlib.Data.List.Forall2
import LayerTwo.Proofs.Network.Request

/-! How far a variable of the environment reaches. Two runs that differ in one variable only differ
in the answers to lookups that ask for that variable, although it also decides when the table is
read: a lookup that finds the variable leaves the table alone. -/
namespace LayerTwo.Network

open Operation

/-- The part of a variable's name that is due to the network. -/
def stem (network : String) : String :=
  String.ofList ((Text.upper network.toList).map fun c => if c = '-' then '_' else c)

theorem variableName_eq_iff {owner name : String} {own setting : Setting} :
    variableName owner own = variableName name setting ↔ stem owner = stem name ∧ own = setting := by
  change stem owner ++ own.ending = stem name ++ setting.ending ↔ _
  constructor
  · intro same
    have endings : own = setting := by
      have last := congrArg (fun text => text.toList.getLast?) same
      cases own <;> cases setting <;> simp [Setting.ending] at last ⊢
    subst endings
    exact ⟨by simpa using same, rfl⟩
  · rintro ⟨stems, rfl⟩
    rw [stems]

/-! Views -/

/-- The views are the same but for what one variable is set to. -/
structure View.AlikeBut (varied : String) (left right : View) : Prop where
  environment : ∀ name, name ≠ varied → left.environment name = right.environment name
  table : left.table = right.table

namespace View.AlikeBut

variable {varied name : String} {left right : View}

theorem network (alike : AlikeBut varied left right) : left.network name = right.network name := by
  rw [View.network, View.network, alike.table]

theorem setting? (alike : AlikeBut varied left right) {setting : Setting}
    (other : varied ≠ variableName name setting) :
    left.setting? setting name = right.setting? setting name := by
  rw [View.setting?, View.setting?, alike.environment _ other.symm]

theorem rpcUrl (alike : AlikeBut varied left right) (other : varied ≠ variableName name .rpcUrl)
    (override : Value) : left.rpcUrl name override = right.rpcUrl name override := by
  rw [View.rpcUrl, View.rpcUrl, alike.setting? other, alike.network]

theorem chainId (alike : AlikeBut varied left right) : left.chainId name = right.chainId name := by
  rw [View.chainId, View.chainId, alike.network]

theorem defaultBridge (alike : AlikeBut varied left right)
    (other : varied ≠ variableName name .bridge) (override : Value) :
    left.defaultBridge name override = right.defaultBridge name override := by
  rw [View.defaultBridge, View.defaultBridge, alike.setting? other, alike.network]

theorem assigned (alike : AlikeBut varied left right) (key : String) (value : Value) :
    left.assigned name key value = right.assigned name key value := by
  rw [View.assigned, View.assigned, alike.network]

end View.AlikeBut

/-! Requests -/

namespace Request

/-- The requests are the same but for what they set one variable to. -/
inductive AlikeBut (varied : String) : Request → Request → Prop
  | same (request : Request) : AlikeBut varied request request
  | set (value other : Option String) :
      AlikeBut varied (.setVariable varied value) (.setVariable varied other)

/-- The request asks for a variable of a network. -/
inductive Asks : Request → String → Setting → Prop
  | rpcUrl (name : String) (override : Value) : Asks (.rpcUrl name override) name .rpcUrl
  | defaultBridge (name : String) (override : Value) : Asks (.defaultBridge name override) name .bridge

/-- The request sets the variable or asks for it. -/
inductive Uses (varied : String) : Request → Prop
  | sets (value : Option String) : Uses varied (.setVariable varied value)
  | asks {request : Request} {name : String} {setting : Setting} (asked : request.Asks name setting)
      (named : varied = variableName name setting) : Uses varied request

end Request

variable {varied : String} {left right : View}

/-- A request and its like are answered the same by views that are alike, unless they use the
variable. -/
theorem View.AlikeBut.answer {request other : Request} (alike : AlikeBut varied left right)
    (asked : request.AlikeBut varied other) (differ : left.answer request ≠ right.answer other) :
    request.Uses varied := by
  cases asked with
  | set value other => exact .sets value
  | same =>
    cases request with
    | load => exact absurd (congrArg (fun table => Except.ok (Value.dict table)) alike.table) differ
    | network name => exact absurd alike.network differ
    | rpcUrl name override =>
      by_contra unused
      have other : varied ≠ variableName name .rpcUrl := fun named =>
        unused (.asks (.rpcUrl name override) named)
      exact differ (alike.rpcUrl other override)
    | chainId name => exact absurd (congrArg (Except.map Value.int) alike.chainId) differ
    | defaultBridge name override =>
      by_contra unused
      have other : varied ≠ variableName name .bridge := fun named =>
        unused (.asks (.defaultBridge name override) named)
      exact differ (alike.defaultBridge other override)
    | setVariable name value => exact absurd rfl differ
    | assign name key value =>
      exact absurd (congrArg (Except.map fun _ => Value.null) (alike.assigned key value)) differ
    | reset => exact absurd rfl differ

/-- Setting a variable leaves the view as it is but for the variable. -/
theorem View.alikeBut_setVariable (view : View) (name : String) (value : Option String) :
    AlikeBut name (view.next (.setVariable name value)) view := by
  rw [View.next]
  cases settled name value with
  | error failure => exact ⟨fun _ _ => rfl, rfl⟩
  | ok text => exact ⟨fun key other => Function.update_of_ne other text view.environment, rfl⟩

/-- A request and its like leave views that are alike alike. -/
theorem View.AlikeBut.next {request other : Request} (alike : AlikeBut varied left right)
    (asked : request.AlikeBut varied other) :
    AlikeBut varied (left.next request) (right.next other) := by
  cases asked with
  | set value other =>
    have first := left.alikeBut_setVariable varied value
    have second := right.alikeBut_setVariable varied other
    refine ⟨fun name outside => ?_, first.table.trans (alike.table.trans second.table.symm)⟩
    rw [first.environment name outside, second.environment name outside]
    exact alike.environment name outside
  | same =>
    cases request with
    | setVariable name value =>
      simp only [View.next]
      cases settled name value with
      | error failure => exact alike
      | ok text =>
        refine ⟨fun key outside => ?_, alike.table⟩
        by_cases set : key = name
        · simp only [set, Function.update_self]
        · simp only [Function.update_of_ne set, alike.environment key outside]
    | assign name key value =>
      simp only [View.next, alike.assigned]
      cases right.assigned name key value with
      | error failure => exact alike
      | ok network => exact ⟨alike.environment, by simp only [alike.table]⟩
    | reset => exact ⟨alike.environment, rfl⟩
    | _ => exact alike

/-- The induction is on the run: alike views are left alike, so a later answer differs only where its
own request uses the variable. -/
theorem View.AlikeBut.answers {requests others : List Request} (alike : AlikeBut varied left right)
    (asked : List.Forall₂ (Request.AlikeBut varied) requests others) (index : Nat)
    {request : Request} (here : requests[index]? = some request)
    (differ : (left.answers requests)[index]? ≠ (right.answers others)[index]?) :
    request.Uses varied := by
  induction asked generalizing left right index with
  | nil => contradiction
  | @cons first other rest otherRest head tail ih =>
    cases index with
    | zero =>
      obtain rfl := Option.some.inj here
      exact alike.answer head fun same => differ (congrArg some same)
    | succ index => exact ih (alike.next head) index here differ

/-! Runs -/

/-- Two runs from one table that differ only in what one variable is set to, at first and on the way:
their answers differ only where the variable is set, or where it is asked for as the endpoint or the
bridge of a network that it is named after. The table, a network and a chain never ask. -/
theorem runs_isolated {varied : String} {left right : Registry} {requests others : List Request}
    (table : left.table? = right.table?) (environment : ∀ name, name ≠ varied →
      left.environment.lookup name = right.environment.lookup name)
    (asked : List.Forall₂ (Request.AlikeBut varied) requests others) :
    ∃ answers otherAnswers,
      (runAll (requests.map (·.step.run)) left).result = .ok answers ∧
      (runAll (others.map (·.step.run)) right).result = .ok otherAnswers ∧
      answers.length = requests.length ∧ otherAnswers.length = requests.length ∧
      ∀ (index : Nat) (request : Request), requests[index]? = some request →
        answers[index]? ≠ otherAnswers[index]? →
          (∃ value, request = .setVariable varied value) ∨
          ∃ name setting, request.Asks name setting ∧ varied = stem name ++ setting.ending ∧
            ∀ owner own, varied = variableName owner own → stem owner = stem name ∧ own = setting := by
  have alike : View.AlikeBut varied left.view right.view :=
    ⟨environment, congrArg (Option.getD · bundled) table⟩
  refine ⟨_, _, runAll_requests left requests, runAll_requests right others,
    left.view.length_answers requests, ?_, fun index request here differ => ?_⟩
  · rw [right.view.length_answers, asked.length_eq]
  · cases alike.answers asked index here differ with
    | sets value => exact .inl ⟨value, rfl⟩
    | asks asks named =>
      refine .inr ⟨_, _, asks, named, fun owner own owned => ?_⟩
      exact variableName_eq_iff.mp (owned.symm.trans named)

/-- The endpoint of the local network is taken from its variable, the chain is the same without. -/
theorem runs_isolated_local :
    let own := variableName "local" .rpcUrl
    let requests : List Request := [.rpcUrl "local" .null, .chainId "local"]
    ∃ answers otherAnswers,
      (runAll (requests.map (·.step.run)) ⟨[], none⟩).result = .ok answers ∧
      (runAll (requests.map (·.step.run)) ⟨[(own, "elsewhere")], none⟩).result =
        .ok otherAnswers ∧
      answers[0]? = some (.ok (.str "http://localhost:3050")) ∧
      otherAnswers[0]? = some (.ok (.str "elsewhere")) ∧ answers[1]? = otherAnswers[1]? := by
  intro own requests
  let bare : Registry := ⟨[], none⟩
  let given : Registry := ⟨[(own, "elsewhere")], none⟩
  have environment : ∀ name, name ≠ own →
      bare.environment.lookup name = given.environment.lookup name := by
    intro name other
    rw [List.lookup_cons, beq_false_of_ne other]
  have asked : List.Forall₂ (Request.AlikeBut own) requests requests :=
    .cons (.same _) (.cons (.same _) .nil)
  have set : given.view.setting? .rpcUrl "local" = some "elsewhere" :=
    Registry.setting?_of_set (by simp [given, own]) (by decide)
  obtain ⟨answers, others, first, second, _, _, isolated⟩ :=
    @runs_isolated own bare given requests requests rfl environment asked
  refine ⟨answers, others, first, second, ?_, ?_, ?_⟩
  · obtain rfl := Except.ok.inj (first.symm.trans (runAll_requests bare requests))
    rfl
  · obtain rfl := Except.ok.inj (second.symm.trans (runAll_requests given requests))
    change some (given.view.rpcUrl "local" .null) = _
    rw [View.rpcUrl, set]
    rfl
  · by_contra differ
    obtain ⟨_, same⟩ | ⟨_, _, asks, _⟩ := isolated 1 _ rfl differ
    · cases same
    · cases asks

end LayerTwo.Network
