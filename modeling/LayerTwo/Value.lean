/-! Untyped values: what a caller hands over and what a payload decodes to. Tables keep their keys
in insertion order and hold each key once. A model inside a value is its kind and its fields. -/
namespace LayerTwo

/-- The kinds of model. -/
inductive Kind where
  | native | erc20 | accessEntry | call | transfer | withdrawal | blockRange | block
deriving DecidableEq, Inhabited

/-- The name a kind goes by in messages. -/
def Kind.title : Kind → String
  | .native => "NativeCurrency"
  | .erc20 => "Erc20Token"
  | .accessEntry => "AccessListEntry"
  | .call => "CallMessage"
  | .transfer => "TransferCallMsg"
  | .withdrawal => "WithdrawalCallMsg"
  | .blockRange => "BlockRange"
  | .block => "Block"

inductive Value where
  | null
  | bool (b : Bool)
  | int (n : Int)
  | float (x : Float)
  | str (s : String)
  | bytes (octets : List UInt8)
  | list (items : List Value)
  | tuple (items : List Value)
  | dict (entries : List (String × Value))
  | model (kind : Kind) (fields : List (String × Value))
deriving Inhabited

/-- Named values, as the entries of a table or the fields of a model. -/
abbrev Entries := List (String × Value)

/-- Gives a key its item: in the place the key has, or at the end. -/
def insertAt {α : Type} (key : String) (item : α) : List (String × α) → List (String × α)
  | [] => [(key, item)]
  | (k, i) :: rest => if k = key then (k, item) :: rest else (k, i) :: insertAt key item rest

namespace Entries

def insert (entries : Entries) (key : String) (value : Value) : Entries :=
  insertAt key value entries

/-- Gives each key of a run of pairs its value, the last one if it has several. -/
def insertAll (entries : Entries) (pairs : List (String × Value)) : Entries :=
  pairs.foldl (fun table (key, value) => table.insert key value) entries

def ofPairs (pairs : List (String × Value)) : Entries := insertAll [] pairs

end Entries

namespace Value

def isNull : Value → Bool
  | .null => true
  | _ => false

theorem isNull_iff {value : Value} : value.isNull = true ↔ value = .null := by
  cases value <;> simp [isNull]

def typeName : Value → String
  | .null => "NoneType"
  | .bool _ => "bool"
  | .int _ => "int"
  | .float _ => "float"
  | .str _ => "str"
  | .bytes _ => "bytes"
  | .list _ => "list"
  | .tuple _ => "tuple"
  | .dict _ => "dict"
  | .model kind _ => kind.title

/-- Whether the value counts as given: zero and everything empty do not. -/
def truthy : Value → Bool
  | .null => false
  | .bool b => b
  | .int n => n != 0
  | .float x => x != 0
  | .str s => !s.isEmpty
  | .bytes octets => !octets.isEmpty
  | .list items => !items.isEmpty
  | .tuple items => !items.isEmpty
  | .dict entries => !entries.isEmpty
  | .model _ _ => true

def ofOption {α : Type} (f : α → Value) : Option α → Value
  | none => .null
  | some a => f a

end Value

end LayerTwo
