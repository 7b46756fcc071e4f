import LayerTwo.Keccak
import LayerTwo.Value

/-! The entries of a contract interface. An entry is called by the first four bytes of the hash of
its signature, a function and an event alike. -/
namespace LayerTwo.Abi

inductive AbiType where
  | address | uint256 | bool | bytes
deriving DecidableEq

def AbiType.name : AbiType → String
  | .address => "address"
  | .uint256 => "uint256"
  | .bool => "bool"
  | .bytes => "bytes"

structure Parameter where
  name : String
  type : AbiType
deriving DecidableEq

inductive Mutability where
  | view | nonpayable | payable
deriving DecidableEq

def Mutability.name : Mutability → String
  | .view => "view"
  | .nonpayable => "nonpayable"
  | .payable => "payable"

/-- The parameters of an event come in two groups: those that are indexed, then the others. -/
inductive Entry where
  | function (name : String) (inputs outputs : List Parameter) (mutability : Mutability)
  | event (name : String) (indexed others : List Parameter)
deriving DecidableEq

namespace Entry

def name : Entry → String
  | .function name .. | .event name .. => name

def inputs : Entry → List Parameter
  | .function _ inputs _ _ => inputs
  | .event _ indexed others => indexed ++ others

/-- The types of the arguments, in order. -/
def types (entry : Entry) : List AbiType := entry.inputs.map (·.type)

def signature (entry : Entry) : String :=
  entry.name ++ "(" ++ ",".intercalate (entry.types.map (·.name)) ++ ")"

def selector (entry : Entry) : List UInt8 := (Keccak.digestText entry.signature.toList).take 4

end Entry

/-- A parameter as an interface description shows it. -/
def Parameter.describe (parameter : Parameter) : Value :=
  .dict [("internalType", .str parameter.type.name), ("name", .str parameter.name),
    ("type", .str parameter.type.name)]

def Parameter.describeFlagged (indexed : Bool) (parameter : Parameter) : Value :=
  .dict [("indexed", .bool indexed), ("internalType", .str parameter.type.name),
    ("name", .str parameter.name), ("type", .str parameter.type.name)]

def Entry.describe : Entry → Value
  | .function name inputs outputs mutability =>
    .dict [("inputs", .list (inputs.map (·.describe))), ("name", .str name),
      ("outputs", .list (outputs.map (·.describe))), ("stateMutability", .str mutability.name),
      ("type", .str "function")]
  | .event name indexed others =>
    .dict [("anonymous", .bool false),
      ("inputs", .list (indexed.map (·.describeFlagged true) ++
        others.map (·.describeFlagged false))),
      ("name", .str name), ("type", .str "event")]

end LayerTwo.Abi
