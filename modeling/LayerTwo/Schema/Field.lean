import LayerTwo.Decimal.Reading
import LayerTwo.Decimal.Binary64
import LayerTwo.Schema.Checked
import LayerTwo.Text.Encoding

/-! Reading the fields of a model. Numbers and texts are taken in every form that stands for them
without loss: an integer also as a truth value, a whole double or a decimal text, a text also as
its UTF-8 bytes and a byte string also as a text. -/
namespace LayerTwo.Schema

open LayerTwo.Decimal

variable {α : Type}

def integerText (text : List Char) : Checked Int :=
  match Decimal.whole text with
  | .ok n => .ok n
  | .error .malformed => .fault .intParsing
  | .error (.tooLong _) => .fault .intTooLong

/-- A double without fraction, strictly between the ends of the 64-bit integers. -/
def integerFloat (x : Binary64) : Checked Int :=
  match x.truncate? with
  | none => .fault .intNotFinite
  | some n =>
    if !x.isWhole then .fault .intFraction
    else if n.natAbs < Nat.pow 2 63 then .ok n
    else .fault .intTooLong

def integer : Value → Checked Int
  | .bool b => .ok (if b then 1 else 0)
  | .int n => .ok n
  | .float x => integerFloat (.ofFloat x)
  | .str s => integerText s.toList
  | .bytes octets =>
    match Text.utf8Text? octets with
    | some s => integerText s.toList
    | none => .fault .intParsing
  | _ => .fault .intType

/-- An integer that is not negative. -/
def natural (value : Value) : Checked Int :=
  (integer value).andThen fun n => if n < 0 then .fault .negative else .ok n

def text : Value → Checked String
  | .str s => .ok s
  | .bytes octets =>
    match Text.utf8Text? octets with
    | some s => .ok s
    | none => .fault .stringNotUtf8
  | _ => .fault .stringType

def bytes : Value → Checked (List UInt8)
  | .bytes octets => .ok octets
  | .str s => .ok (Text.utf8Bytes s)
  | _ => .fault .bytesType

/-- An address in any accepted spelling, brought to checksum form. -/
def address (value : Value) : Checked String :=
  match Address.read value with
  | .ok form => .ok form
  | .error fault => .fault (.refused (.address fault))

/-- The items of a list or tuple. A model is gone through field by field, as pairs of name and
value. -/
def sequence (check : Value → Checked α) : Value → Checked (List α)
  | .list items | .tuple items => .items check 0 items
  | .model _ fields => .items check 0 (fields.map fun (name, value) => .tuple [.str name, value])
  | _ => .fault .tupleType

/-- A value that may also be null. -/
def nullable (check : Value → Checked α) : Value → Checked (Option α)
  | .null => .ok none
  | value => (check value).map some

/-- The value under the first of the names that is given, with that name. -/
def find? (inputs : Entries) : List String → Option (String × Value)
  | [] => none
  | name :: names =>
    match inputs.lookup name with
    | some value => some (name, value)
    | none => find? inputs names

/-- A field that goes by the name or, in preference, by its alias. -/
structure Name where
  alias? : Option String
  name : String

def Name.spellings (name : Name) : List String := name.alias?.toList ++ [name.name]

/-- The spelling under which a field that is not given is missed. -/
def Name.preferred (name : Name) : String := name.alias?.getD name.name

instance : Coe String Name := ⟨fun name => ⟨none, name⟩⟩

def required (inputs : Entries) (name : Name) (check : Value → Checked α) : Checked α :=
  match find? inputs name.spellings with
  | some (spelling, value) => (check value).under (.key spelling)
  | none => (Checked.fault .missing).under (.key name.preferred)

def optional (inputs : Entries) (name : Name) (default : α) (check : Value → Checked α) :
    Checked α :=
  match find? inputs name.spellings with
  | some (spelling, value) => (check value).under (.key spelling)
  | none => .ok default

/-- The fields of a table or of a model of the given kind. -/
def fieldsOf (kind : Kind) : Value → Checked Entries
  | .dict entries => .ok entries
  | .model other fields => if other = kind then .ok fields else .fault (.modelType kind)
  | _ => .fault (.modelType kind)

end LayerTwo.Schema
