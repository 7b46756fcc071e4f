import LayerTwo.Message.Build
import LayerTwo.Payload.Decode
import LayerTwo.Value.Hash

/-! A workbench of named models: they are made, looked at, compared, copied with changes and built
into call messages. A step that fails leaves the models as they are, but a changed model is kept
even when it cannot be looked at. -/
namespace LayerTwo

open Operation

/-- Makes a model of the given kind from named inputs. -/
def Record.make (kind : Kind) (inputs : Entries) : Except Failure Record :=
  match kind with
  | .native => (Token.checkNative inputs).map (·.record) |>.result kind
  | .erc20 => (Token.checkErc20 inputs).map (·.record) |>.result kind
  | .accessEntry => (AccessEntry.checkFields inputs).map (·.record) |>.result kind
  | .call => (CallMessage.check inputs).map (·.record) |>.result kind
  | .transfer => (Transfer.check inputs).map (·.record) |>.result kind
  | .withdrawal => (Withdrawal.check inputs).map (·.record) |>.result kind
  | .blockRange => (BlockRange.check inputs).map (·.record) |>.result kind
  | .block => (Block.check inputs).map (·.record) |>.result kind

/-- Makes a model of the given kind from a value: a table of inputs, or a model of that kind. -/
def Record.validate (kind : Kind) (value : Value) : Except Failure Record :=
  match (Schema.fieldsOf kind value).result kind with
  | .ok inputs => Record.make kind inputs
  | .error failure => .error failure

/-- What a model shows besides its fields. -/
inductive Aspect where
  | plain
  | token (isNative : Bool) (address : Value)
  | call (params rpc : Entries)
  | range (rpc : Value)
  | block (isSealed : Bool)

structure View where
  record : Record
  aspect : Aspect

def Record.view (record : Record) : Except Failure View :=
  match record.kind with
  | .native => .ok ⟨record, .token true (.str Address.zero)⟩
  | .erc20 => .ok ⟨record, .token false (record.get "address")⟩
  | .call => do
    let params ← record.params
    let rpc ← record.rpc
    return ⟨record, .call params rpc⟩
  | .blockRange => record.rangeRpc.map fun rpc => ⟨record, .range rpc⟩
  | .block => .ok ⟨record, .block record.isSealed⟩
  | .accessEntry | .transfer | .withdrawal => .ok ⟨record, .plain⟩

/-- Every model is frozen. A name that starts with an underscore is no field and is let pass. -/
def Record.assign (record : Record) (field : String) (value : Value) : Except Failure Record :=
  if field.startsWith "_" then .ok (record.update [(field, value)])
  else .error (.invalid ⟨record.kind, [⟨[.key field], .frozen⟩]⟩)

namespace Workbench

/-- A model, with the step that gave each field its value. -/
structure Held where
  record : Record
  origins : List (String × Nat)

namespace Held

/-- A model whose fields all come from one step. -/
def ofStep (step : Nat) (record : Record) : Held :=
  ⟨record, record.fields.map fun field => (field.1, step)⟩

def origin (held : Held) (field : String) : Nat := (held.origins.lookup field).getD 0

/-- A copy: the changed fields come from the given step, the others from where they were. -/
def copy (held : Held) (step : Nat) (changes : Entries) : Except Failure Held :=
  (held.record.copy changes).map fun record =>
    ⟨record, held.origins.map fun (field, origin) =>
      (field, if (changes.lookup field).isSome then step else origin)⟩

/-- A value equals itself, even a NaN: fields of one origin need no comparison. -/
def same (a b : Held) : Bool :=
  a.record.kind == b.record.kind && a.record.fields.all fun (field, value) =>
    a.origin field == b.origin field || value.same (b.record.get field)

def hashKey (held : Held) : Except Failure Value.HashKey :=
  let keys := held.record.fields.mapM fun (field, value) => value.hashKey (held.origin field)
  (keys.map Value.modelKey).mapError fun typeName => .badType (.unhashable typeName)

end Held

/-- The models by name, and the number of steps that were taken. -/
structure Bench where
  loaded : Abi.Loaded
  models : List (String × Held)
  steps : Nat

def Bench.empty : Bench := ⟨[], [], 0⟩

inductive Step where
  | make (name : String) (kind : Kind) (inputs : Entries)
  | readRange (name : String) (raw : Value)
  | view (name : String)
  | assign (name field : String) (value : Value)
  | build (name target : String) (bridge : Value)
  | same (name other : String)
  | sameHash (name other : String)
  | copy (name target : String) (changes : Entries)

inductive Answer where
  | view (view : View)
  | bool (b : Bool)

/-- Runs an operation that knows only the loaded interfaces. -/
def onLoaded {α : Type} (operation : Operation Abi.Loaded α) : Operation Bench α := fun bench =>
  let outcome := operation bench.loaded
  ⟨outcome.log, { bench with loaded := outcome.state }, outcome.result⟩

def find (name : String) : Operation Bench Held := do
  match (← get).models.lookup name with
  | some held => pure held
  | none => fail (.missingKey name)

def keep (name : String) (held : Held) : Operation Bench Unit := do
  let bench ← get
  set { bench with models := (name, held) :: bench.models }

/-- The number of the step that is being taken. -/
def count : Operation Bench Nat := do
  let bench ← get
  set { bench with steps := bench.steps + 1 }
  return bench.steps

def display (record : Record) : Operation Bench Answer := ofExcept (record.view.map .view)

/-- Keeps a new model that can be looked at. -/
def keepNew (name : String) (record : Record) : Operation Bench Answer := do
  let answer ← display record
  keep name (.ofStep (← count) record)
  return answer

def Step.run : Step → Operation Bench Answer
  | .make name kind inputs => do keepNew name (← ofExcept (Record.make kind inputs))
  | .readRange name raw => do keepNew name (← BlockRange.ofRaw raw).record
  | .view name => do display (← find name).record
  | .assign name field value => do
    let held ← find name
    let record ← ofExcept (held.record.assign field value)
    keep name { held with record := record }
    display record
  | .build name target bridge => do
    keepNew target (← onLoaded ((← find name).record.toCall bridge)).record
  | .same name other => do
    let held ← find name
    return .bool (held.same (← find other))
  | .sameHash name other => do
    let first ← ofExcept (← find name).hashKey
    let second ← ofExcept (← find other).hashKey
    return .bool (first == second)
  | .copy name target changes => do
    let held ← ofExcept ((← find name).copy (← count) changes)
    keep target held
    display held.record

end Workbench

end LayerTwo
