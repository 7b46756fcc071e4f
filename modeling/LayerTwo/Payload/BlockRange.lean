import LayerTwo.Payload.ParseError
import LayerTwo.Record
import LayerTwo.Schema.Field

/-! Ranges of blocks, on the wire a pair of hex quantities. -/
namespace LayerTwo

open Schema

/-- Both bounds belong to the range. -/
structure BlockRange where
  first : Int
  last : Int
deriving DecidableEq

namespace BlockRange

def record (range : BlockRange) : Record where
  kind := .blockRange
  fields := [("beginning", .int range.first), ("end", .int range.last)]

def check (inputs : Entries) : Checked BlockRange :=
  BlockRange.mk <$> required inputs "beginning" natural <*> required inputs "end" natural

/-- The two items of a list or tuple. -/
def pair : Value → Except ParseError (Value × Value)
  | .list [a, b] | .tuple [a, b] => .ok (a, b)
  | .list items | .tuple items => .error ⟨.rangeLength items.length, none⟩
  | other => .error ⟨.rangeNotArray other.typeName, none⟩

/-- The inputs of a range, from its wire form. The first bound is read before the second. -/
def inputsOfWire (value : Value) : Except ParseError Entries := do
  let (a, b) ← pair value
  let first ← ParseError.ofHex (some "beginning") (Hex.readQuantity a)
  let last ← ParseError.ofHex (some "end") (Hex.readQuantity b)
  return [("beginning", .int first), ("end", .int last)]

end BlockRange

end LayerTwo
