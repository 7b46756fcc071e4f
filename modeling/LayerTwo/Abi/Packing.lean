import LayerTwo.Abi.Encoding
import LayerTwo.Abi.Interface

/-! Packing a call: the selector of an entry and its encoded arguments. -/
namespace LayerTwo.Abi

/-- Why a call cannot be packed. -/
inductive PackFault where
  | mismatch
  | notAscii
  | badAddress
  | noArguments
  | notIterable (typeName : String)
  | nameNotText (typeName : String)
deriving DecidableEq

/-- The values a value is made of, if it can be gone through. -/
def itemsOf? : Value → Option (List Value)
  | .list items | .tuple items => some items
  | .str s => some (s.toList.map fun c => .str (String.singleton c))
  | .bytes octets => some (octets.map fun byte => .int byte.toNat)
  | .dict entries => some (entries.map fun (key, _) => .str key)
  | .model _ fields => some (fields.map fun (name, value) => .tuple [.str name, value])
  | _ => none

/-- Packs a call of an entry. Arguments that fit no entry are told apart from an address that is
not in checksum form; an empty list for an entry with parameters is a fault of its own. -/
def Entry.pack (entry : Entry) (values : List Value) : Except PackFault (List UInt8) :=
  if values.isEmpty && !entry.types.isEmpty then .error .noArguments
  else
    match argumentsOf? entry.types values with
    | none => .error .mismatch
    | some arguments =>
      if (entry.types.zip values).all fun (type, value) => isChecksummed type value then
        .ok (entry.selector ++ encodeArguments arguments)
      else .error .badAddress

/-- Whether as many values as the entry has parameters hold a text that is not ASCII where a byte
string is due. -/
def Entry.hasForeign (entry : Entry) (values : List Value) : Bool :=
  entry.types.length == values.length &&
    (entry.types.zip values).any fun (type, value) => isForeign type value

/-- A text that is not ASCII is refused before the types in the identifier are looked at. -/
def Interface.pack (interface : Interface) (function arguments : Value) :
    Except PackFault (List UInt8) :=
  match itemsOf? arguments with
  | none => .error (.notIterable arguments.typeName)
  | some values =>
    match function with
    | .str identifier =>
      if (interface.named? identifier).any (·.hasForeign values) then .error .notAscii
      else
        match interface.find? identifier with
        | some entry => entry.pack values
        | none => .error .mismatch
    | other => .error (.nameNotText other.typeName)

end LayerTwo.Abi
