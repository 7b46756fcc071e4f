import LayerTwo.Hex.Wire
import LayerTwo.Json.Fault

/-! Why a payload of a node is refused. -/
namespace LayerTwo

namespace Payload

/-- What a payload is expected to hold. -/
inductive Subject where
  | blockRange | block
deriving DecidableEq

def Subject.name : Subject → String
  | .blockRange => "block range"
  | .block => "block"

inductive Fault where
  | hex (fault : Hex.Fault)
  | address (value : Value)
  | notArray (typeName : String)
  | missing
  | rangeNotArray (typeName : String)
  | rangeLength (length : Nat)
  | notObject (typeName : String)
  | malformed (subject : Subject) (fault : Json.Fault)

end Payload

/-- A refused payload, and the field the fault is about if it is about one. -/
structure ParseError where
  fault : Payload.Fault
  field : Option String

namespace ParseError

def fieldName (error : ParseError) : String := error.field.getD ""

def message? (error : ParseError) : Option String :=
  match error.fault with
  | .hex fault => fault.message? error.field
  | .address value => do
    return "Invalid address in " ++ error.fieldName ++ ": " ++ (← value.literal?)
  | .notArray typeName => some ("Expected array in " ++ error.fieldName ++ ", got " ++ typeName)
  | .missing => some ("Missing required field '" ++ error.fieldName ++ "' for block")
  | .rangeNotArray typeName => some ("Block range must be an array, got " ++ typeName)
  | .rangeLength length =>
    some ("Block range must have exactly 2 elements, got " ++ toString length)
  | .notObject typeName => some ("Block must be an object, got " ++ typeName)
  | .malformed subject fault => some ("Malformed " ++ subject.name ++ " JSON: " ++ fault.message)

/-- A fault of a hex value in the given field. -/
def ofHex {α : Type} (field : Option String) (result : Except Hex.Fault α) : Except ParseError α :=
  result.mapError fun fault => ⟨.hex fault, field⟩

end ParseError

end LayerTwo
