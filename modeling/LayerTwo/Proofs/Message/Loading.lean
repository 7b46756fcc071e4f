import LayerTwo.Proofs.Message.Outcome

/-! What is loaded when. A contract interface is loaded by the first call that needs it, which is
logged, and never again. No result depends on what is loaded: each call of a run gives what it gives
as the only one. -/
namespace LayerTwo

open Operation

namespace Abi

variable {α β : Type}

/-! Operations that load -/

/-- How often a log says that the interface is loaded. -/
def Interface.loadings (interface : Interface) (log : List LogRecord) : Nat :=
  log.countP fun record =>
    record.level = .debug ∧ record.message = "Loading " ++ interface.name ++ " ABI"

theorem Interface.loadings_append (interface : Interface) (first rest : List LogRecord) :
    interface.loadings (first ++ rest) = interface.loadings first + interface.loadings rest :=
  List.countP_append

/-- The operation loads the needed interface, if there is one, unless it is loaded already, and no
other. Its result is the same whatever is loaded. -/
structure Loads (operation : Operation Loaded α) (needed : Option Interface) : Prop where
  result : ∀ loaded other, (operation loaded).result = (operation other).result
  state : ∀ loaded interface, interface ∈ (operation loaded).state ↔
    interface ∈ loaded ∨ needed = some interface
  log : ∀ loaded interface, interface.loadings (operation loaded).log =
    if interface ∉ loaded ∧ needed = some interface then 1 else 0

/-- Nothing is loaded by an operation that leaves what is loaded alone and does not say otherwise. -/
theorem loads_none {operation : Operation Loaded α} {log : List LogRecord}
    {result : Except Failure α} (runs : ∀ loaded, operation loaded = ⟨log, loaded, result⟩)
    (silent : ∀ interface : Interface, interface.loadings log = 0) : Loads operation none where
  result loaded other := by rw [runs, runs]
  state loaded interface := by simp [runs]
  log loaded interface := by simp [runs, silent]

theorem loads_ofExcept (result : Except Failure α) : Loads (ofExcept result) none :=
  loads_none (fun _ => rfl) fun _ => rfl

theorem loads_pure (a : α) : Loads (pure a) none := loads_none (fun _ => rfl) fun _ => rfl

theorem loads_fail (failure : Failure) : Loads (fail failure : Operation Loaded α) none :=
  loads_none (fun _ => rfl) fun _ => rfl

theorem loads_log {level : Level} {message : String} (area : Area)
    (silent : ∀ interface : Interface, interface.loadings [⟨level, area, message⟩] = 0) :
    Loads (log level area message) none := loads_none (fun _ => rfl) silent

theorem loads_logShown {level : Level} {message? : Option String} (area : Area)
    (silent : ∀ message ∈ message?, ∀ interface : Interface,
      interface.loadings [⟨level, area, message⟩] = 0) :
    Loads (logShown level area message?) none := by
  cases message? with
  | none => exact loads_fail _
  | some message => exact loads_log area (silent message rfl)

/-- What follows an operation and loads nothing changes nothing. -/
theorem Loads.bind {operation : Operation Loaded α} {next : α → Operation Loaded β}
    {needed : Option Interface} (first : Loads operation needed) (rest : ∀ a, Loads (next a) none) :
    Loads (operation >>= next) needed where
  result loaded other := by
    have same := first.result loaded other
    cases ran : (operation loaded).result with
    | error failure => rw [bind_of_error ran, bind_of_error (same.symm.trans ran)]
    | ok a =>
      rw [bind_of_ok ran, bind_of_ok (same.symm.trans ran)]
      exact (rest a).result _ _
  state loaded interface := by
    cases ran : (operation loaded).result with
    | error failure =>
      rw [bind_of_error ran]
      exact first.state loaded interface
    | ok a =>
      rw [bind_of_ok ran, (rest a).state, first.state]
      simp
  log loaded interface := by
    cases ran : (operation loaded).result with
    | error failure =>
      rw [bind_of_error ran]
      exact first.log loaded interface
    | ok a =>
      rw [bind_of_ok ran, Interface.loadings_append, first.log, (rest a).log]
      simp

theorem loads_logged (area : Area) (failure : Failure) :
    Loads (logged area failure : Operation Loaded α) none := by
  refine (loads_logShown area fun message _ interface => ?_).bind fun _ => loads_fail failure
  simp [Interface.loadings]

/-- What comes before an operation, succeeds and loads nothing changes nothing. -/
theorem Loads.after {operation : Operation Loaded α} {next : α → Operation Loaded β} {a : α}
    {needed : Option Interface} (first : Loads operation none) (succeeds : Answers operation (.ok a))
    (rest : Loads (next a) needed) : Loads (operation >>= next) needed where
  result loaded other := by
    rw [bind_of_ok (succeeds loaded), bind_of_ok (succeeds other)]
    exact rest.result _ _
  state loaded interface := by
    rw [bind_of_ok (succeeds loaded), rest.state, first.state]
    simp
  log loaded interface := by
    rw [bind_of_ok (succeeds loaded), Interface.loadings_append, first.log, rest.log]
    simp [first.state]

/-- An operation that fails before anything is loaded loads nothing. -/
theorem Loads.stop {operation : Operation Loaded α} {next : α → Operation Loaded β}
    {failure : Failure} (first : Loads operation none) (fails : Answers operation (.error failure)) :
    Loads (operation >>= next) none where
  result loaded other := by rw [bind_of_error (fails loaded), bind_of_error (fails other)]
  state loaded interface := by
    rw [bind_of_error (fails loaded)]
    exact first.state loaded interface
  log loaded interface := by
    rw [bind_of_error (fails loaded)]
    exact first.log loaded interface

/-! Interfaces -/

theorem Interface.eq_of_same_message {first second : Interface}
    (same : "Loading " ++ first.name ++ " ABI" = "Loading " ++ second.name ++ " ABI") :
    first = second := by
  revert same
  cases first <;> cases second <;> decide

theorem Interface.loads_load (interface : Interface) : Loads interface.load (some interface) := by
  have runs : ∀ loaded, interface.load loaded =
      if interface ∈ loaded then ⟨[], loaded, .ok ()⟩
      else ⟨[⟨.debug, .contracts, "Loading " ++ interface.name ++ " ABI"⟩], interface :: loaded,
        .ok ()⟩ := by
    intro loaded
    change (if interface ∈ loaded then _ else _ : Operation Loaded Unit) loaded = _
    split_ifs
    · rfl
    · rfl
  constructor
  · intro loaded other
    exact (answers_load interface loaded).trans (answers_load interface other).symm
  · intro loaded asked
    rw [runs]
    split_ifs with known
    · simp only [Option.some.injEq, iff_self_or]
      rintro rfl
      exact known
    · simp [or_comm, eq_comm]
  · intro loaded asked
    rw [runs]
    by_cases same : interface = asked
    · subst same
      split_ifs <;> simp_all [Interface.loadings]
    · have other : ¬"Loading " ++ interface.name ++ " ABI" = "Loading " ++ asked.name ++ " ABI" :=
        fun message => same (Interface.eq_of_same_message message)
      split_ifs <;> simp_all [Interface.loadings]

/-- The interface that goes by the name, if it is one. -/
def Interface.ofValue? : Value → Option Interface
  | .str name => Interface.ofName? name
  | _ => none

theorem Interface.toOption_named (name : Value) : (named name).toOption = ofValue? name := by
  cases name with
  | str text =>
    have hashable : (Value.str text).unhashable? = none := rfl
    simp only [named, hashable, ofValue?]
    cases ofName? text <;> rfl
  | _ =>
    unfold named
    split
    · rfl
    · rfl

theorem loads_loadContract (name : Value) : Loads (loadContract name) (Interface.ofValue? name) := by
  rw [← Interface.toOption_named]
  unfold loadContract
  cases Interface.named name with
  | error fault => exact loads_fail _
  | ok interface => exact interface.loads_load.bind fun _ => loads_pure interface

theorem loads_encodeCall (name function arguments : Value) :
    Loads (encodeCall name function arguments) (Interface.ofValue? name) := by
  rw [← Interface.toOption_named]
  unfold encodeCall
  cases Interface.named name with
  | error fault => exact loads_logged _ _
  | ok interface =>
    refine interface.loads_load.bind fun _ => ?_
    cases interface.pack function arguments with
    | ok data => exact loads_pure data
    | error fault => exact loads_logged _ _

end Abi

namespace Record

open Abi

variable (record : Record)

/-- The interface that the call of a record goes through, if it goes through one. A transfer warns
about its amount before that. -/
def interface? : Option Interface :=
  match record.call .call, record.kind, isNativeToken (record.get "token") with
  | .ok _, .transfer, .ok false => if record.warned then some .erc20 else none
  | .ok _, .withdrawal, .ok true => some .ethToken
  | .ok _, .withdrawal, .ok false => some .l2Bridge
  | _, _, _ => none

theorem loads_logBuilt (what : String) (message : CallMessage) :
    Loads (logBuilt what message) none := by
  refine loads_logShown _ fun notice shown interface => ?_
  obtain ⟨_, _, shown⟩ := Option.bind_eq_some_iff.mp shown
  obtain ⟨_, _, shown⟩ := Option.bind_eq_some_iff.mp shown
  obtain rfl := Option.some.inj shown
  simp [Interface.loadings, String.ext_iff]

theorem loads_built (what : String) (made : Except Failure CallMessage) :
    Loads (ofExcept made >>= fun message => do
      logBuilt what message
      return message) none :=
  (loads_ofExcept made).bind fun message =>
    (loads_logBuilt what message).bind fun _ => loads_pure message

theorem loads_warnZeroAmount : Loads record.warnZeroAmount none := by
  unfold warnZeroAmount
  split_ifs
  · refine loads_logShown _ fun message _ interface => ?_
    simp [Interface.loadings]
  · exact loads_pure ()

theorem loads_noteIgnoredBridge : Loads record.noteIgnoredBridge none := by
  unfold noteIgnoredBridge
  split_ifs
  · exact loads_pure ()
  · refine loads_log _ fun interface => ?_
    simp [Interface.loadings, String.ext_iff]

theorem loads_chooseBridge (default : Value) : Loads (record.chooseBridge default) none := by
  unfold chooseBridge
  dsimp only
  generalize (if (record.get "bridge_address").truthy then _ else default) = bridge
  split_ifs
  · refine (loads_logShown _ fun message _ interface => ?_).bind fun _ => loads_fail _
    simp [Interface.loadings]
  · exact loads_pure _

theorem interface?_of_unwarned (kind : record.kind = .transfer) (unwarned : record.warned = false) :
    record.interface? = none := by
  unfold interface?
  rw [kind, unwarned]
  split
  · rfl
  · contradiction
  · contradiction
  · rfl

theorem loads_transferCall (called : record.call .call = .ok ()) (kind : record.kind = .transfer) :
    Loads record.transferCall record.interface? := by
  have warning := answers_warnZeroAmount record
  cases warned : record.warned with
  | false =>
    rw [warned] at warning
    rw [record.interface?_of_unwarned kind warned]
    exact record.loads_warnZeroAmount.stop warning
  | true =>
    rw [warned] at warning
    simp only [interface?, called, kind, warned]
    refine record.loads_warnZeroAmount.after warning ?_
    cases asked : isNativeToken (record.get "token") with
    | error failure => exact (loads_ofExcept _).stop fun _ => asked
    | ok native =>
      refine (loads_ofExcept _).after (fun _ => asked) ?_
      cases native with
      | true => exact loads_built "transfer" _
      | false => exact (loads_encodeCall _ _ _).bind fun data => loads_built "transfer" _

theorem loads_withdrawalCall (called : record.call .call = .ok ())
    (kind : record.kind = .withdrawal) (default : Value) :
    Loads (record.withdrawalCall default) record.interface? := by
  simp only [interface?, called, kind]
  unfold withdrawalCall
  cases asked : isNativeToken (record.get "token") with
  | error failure => exact (loads_ofExcept _).stop fun _ => asked
  | ok native =>
    refine (loads_ofExcept _).after (fun _ => asked) ?_
    cases native with
    | true =>
      refine record.loads_noteIgnoredBridge.after (answers_noteIgnoredBridge record) ?_
      exact (loads_encodeCall _ _ _).bind fun data => loads_built "withdrawal" _
    | false =>
      refine (loads_encodeCall _ _ _).bind fun data => ?_
      exact (record.loads_chooseBridge default).bind fun bridge => loads_built "withdrawal" _

theorem loads_toCall (default : Value) : Loads (record.toCall default) record.interface? := by
  unfold toCall
  cases called : record.call .call with
  | error failure =>
    simp only [interface?, called]
    exact (loads_ofExcept _).stop (answers_ofExcept _)
  | ok _ =>
    refine (loads_ofExcept _).after (answers_ofExcept (.ok ())) ?_
    split
    · exact record.loads_transferCall called (by assumption)
    · exact record.loads_withdrawalCall called (by assumption) default
    · have none : record.interface? = none := by
        unfold interface?
        split
        · contradiction
        · contradiction
        · contradiction
        · rfl
      exact none ▸ loads_fail _

end Record

/-! Runs -/

namespace Abi

/-- What interfaces are used for: one is loaded, a call is encoded, a record is built. -/
inductive Use where
  | load (name : Value)
  | encode (name function arguments : Value)
  | build (record : Record) (default : Value)

inductive Product where
  | contract (interface : Interface)
  | data (octets : List UInt8)
  | message (message : CallMessage)

namespace Use

def run : Use → Operation Loaded Product
  | .load name => do return .contract (← loadContract name)
  | .encode name function arguments => do return .data (← encodeCall name function arguments)
  | .build record default => do return .message (← record.toCall default)

/-- The interface that a use needs. -/
def interface? : Use → Option Interface
  | .load name | .encode name _ _ => Interface.ofValue? name
  | .build record _ => record.interface?

theorem loads (use : Use) : Loads use.run use.interface? := by
  cases use with
  | load name => exact (loads_loadContract name).bind fun _ => loads_pure _
  | encode name function arguments =>
    exact (loads_encodeCall name function arguments).bind fun _ => loads_pure _
  | build record default => exact (record.loads_toCall default).bind fun _ => loads_pure _

/-- The induction is on the run, over all that may be loaded before it: what the first use loads is
not loaded by the others. -/
theorem loadings_runAll (uses : List Use) (loaded : Loaded) (interface : Interface) :
    interface.loadings (runAll (uses.map run) loaded).log =
      if interface ∉ loaded ∧ ∃ use ∈ uses, use.interface? = some interface then 1 else 0 := by
  induction uses generalizing loaded with
  | nil =>
    have never : ¬∃ use ∈ ([] : List Use), use.interface? = some interface := by simp
    rw [if_neg fun needed => never needed.2]
    rfl
  | cons use rest ih =>
    rw [List.map_cons, runAll_cons, Interface.loadings_append, use.loads.log, ih]
    simp only [use.loads.state, List.exists_mem_cons_iff]
    by_cases known : interface ∈ loaded
    · simp [known]
    · by_cases needed : use.interface? = some interface
      · simp [known, needed]
      · simp [known, needed]

theorem result_runAll (uses : List Use) (loaded : Loaded) :
    (runAll (uses.map run) loaded).result = .ok (uses.map fun use => (use.run []).result) := by
  induction uses generalizing loaded with
  | nil => rfl
  | cons use rest ih =>
    rw [List.map_cons, result_runAll_cons (ih _), List.map_cons, use.loads.result loaded []]

end Use

theorem loadContract_eq_of_unknown {name : Value} (unknown : Interface.ofValue? name = none) :
    ∃ failure, ∀ loaded, loadContract name loaded = ⟨[], loaded, .error failure⟩ := by
  rw [← Interface.toOption_named] at unknown
  unfold loadContract
  cases named : Interface.named name with
  | ok interface =>
    rw [named] at unknown
    contradiction
  | error fault => exact ⟨fault.failure, fun _ => rfl⟩

theorem Interface.ofValue?_eq_none {name : Value}
    (unknown : ∀ interface : Interface, name ≠ .str interface.name) :
    Interface.ofValue? name = none := by
  cases name with
  | str text =>
    refine List.find?_eq_none.mpr fun interface _ same => unknown interface ?_
    rw [beq_iff_eq.mp same]
  | _ => rfl

/-- Whatever the interfaces are used for, in whatever order, from when none is loaded: each use gives
what it gives as the first, and an interface is loaded once if a use needs it, else never. What goes
by no interface's name is refused each time anew. -/
theorem interfaces_loaded_once (uses : List Use) :
    (runAll (uses.map Use.run) []).result = .ok (uses.map fun use => (use.run []).result) ∧
    (∀ interface : Interface, interface.loadings (runAll (uses.map Use.run) []).log =
      if ∃ use ∈ uses, use.interface? = some interface then 1 else 0) ∧
    (∀ name, (∀ interface : Interface, name ≠ .str interface.name) → ∃ failure, ∀ loaded,
      loadContract name loaded = ⟨[], loaded, .error failure⟩) ∧
    (∀ (transfer : Transfer) default, (Use.build transfer.record default).interface? =
      if transfer.token = .native then none else some .erc20) ∧
    (∀ (withdrawal : Withdrawal) default, (Use.build withdrawal.record default).interface? =
      if withdrawal.token = .native then some .ethToken else some .l2Bridge) ∧
    ∀ (use : Use) loaded interface, interface ∈ (use.run loaded).state ↔
      interface ∈ loaded ∨ use.interface? = some interface := by
  refine ⟨Use.result_runAll uses [], fun interface => ?_, ?_, ?_, ?_, fun use => use.loads.state⟩
  · simpa using Use.loadings_runAll uses [] interface
  · intro name unknown
    exact loadContract_eq_of_unknown (Interface.ofValue?_eq_none unknown)
  · rintro ⟨options, recipient, amount, token, sender⟩ default
    cases token <;> rfl
  · rintro ⟨options, recipient, amount, token, bridge, sender⟩ default
    cases token <;> rfl

/-- The interface of tokens is asked for twice and loaded once; nothing is loaded by another name. -/
theorem interfaces_loaded_once_erc20 :
    let uses : List Use := [.load (.str "IERC20"), .load (.str "IERC721"), .load (.str "IERC20")]
    Interface.erc20.loadings (runAll (uses.map Use.run) []).log = 1 ∧
      Interface.l2Bridge.loadings (runAll (uses.map Use.run) []).log = 0 ∧
      ∃ failure, ∀ loaded, loadContract (.str "IERC721") loaded = ⟨[], loaded, .error failure⟩ := by
  intro uses
  obtain ⟨_, loadings, refused, _⟩ := interfaces_loaded_once uses
  refine ⟨(loadings .erc20).trans (by decide), (loadings .l2Bridge).trans (by decide), ?_⟩
  refine refused _ fun interface => ?_
  cases interface <;> simp [Interface.name]

end Abi

end LayerTwo
