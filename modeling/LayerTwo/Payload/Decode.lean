import LayerTwo.Operation
import LayerTwo.Json.Raw
import LayerTwo.Payload.Block
import LayerTwo.Payload.BlockRange

/-! Decoding payloads of a node, from their wire form or from raw JSON. A payload that is refused
is logged once, with the message of its failure. -/
namespace LayerTwo

open Operation

variable {σ : Type}

/-- A parse error is logged before it is raised. -/
def Operation.parsed {α : Type} (area : Area) (result : Except ParseError α) : Operation σ α :=
  match result with
  | .ok a => pure a
  | .error error => logged area (.parse error)

namespace Payload

def quantity (field : Option String) (value : Value) : Operation σ Nat :=
  parsed .wire (ParseError.ofHex field (Hex.readQuantity value))

def data (field : Option String) (size : Option Int) (value : Value) : Operation σ (List UInt8) :=
  parsed .wire (ParseError.ofHex field (Hex.readData size value))

/-- The value of a raw payload. -/
def raw (subject : Subject) (value : Value) : Operation σ Value :=
  parsed .payloads ((Json.readRaw value).mapError fun fault => ⟨.malformed subject fault, none⟩)

end Payload

namespace BlockRange

def ofWire (value : Value) : Operation σ BlockRange := do
  let inputs ← parsed .wire (inputsOfWire value)
  ofExcept ((check inputs).result .blockRange)

def ofRaw (value : Value) : Operation σ BlockRange := do ofWire (← Payload.raw .blockRange value)

end BlockRange

namespace Block

def ofWire (value : Value) : Operation σ Block := do
  let inputs ← parsed .wire (inputsOfWire value)
  ofExcept ((check inputs).result .block)

def ofRaw (value : Value) : Operation σ Block := do ofWire (← Payload.raw .block value)

end Block

end LayerTwo
