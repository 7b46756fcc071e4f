import LayerTwo.Operation
import LayerTwo.Value.Hash

/-! Contract interfaces are loaded when a call first needs them and stay loaded. Loading is logged,
so that each interface is logged once; the outcome of a call does not depend on what is loaded. -/
namespace LayerTwo.Abi

open Operation

/-- The interfaces loaded so far. -/
abbrev Loaded := List Interface

/-- The interface of the given name. A name that cannot be hashed is refused as such. -/
def Interface.named (name : Value) : Except LoadFault Interface :=
  match name.unhashable? with
  | some typeName => .error (.unhashable typeName)
  | none =>
    match name with
    | .str s =>
      match Interface.ofName? s with
      | some interface => .ok interface
      | none => .error (.unknown name)
    | _ => .error (.unknown name)

def Interface.load (interface : Interface) : Operation Loaded Unit := do
  let loaded ← get
  if interface ∈ loaded then pure ()
  else
    log .debug .contracts ("Loading " ++ interface.name ++ " ABI")
    set (interface :: loaded)

def loadContract (name : Value) : Operation Loaded Interface :=
  match Interface.named name with
  | .ok interface => do
    interface.load
    pure interface
  | .error fault => fail fault.failure

/-- Call data for a function of a contract interface. -/
def encodeCall (name function arguments : Value) : Operation Loaded (List UInt8) :=
  match Interface.named name with
  | .error fault => logged .contracts (.encoding ⟨function, .load name fault⟩)
  | .ok interface => do
    interface.load
    match interface.pack function arguments with
    | .ok data => pure data
    | .error fault => logged .contracts (.encoding ⟨function, .pack fault⟩)

end LayerTwo.Abi
