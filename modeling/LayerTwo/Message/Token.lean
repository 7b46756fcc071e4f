import LayerTwo.Record
import LayerTwo.Schema.Field

/-! Tokens: the native currency, or a token contract by its address. A text that spells the zero
address means the native currency; as the address of a contract it is refused. -/
namespace LayerTwo

open Schema

inductive Token where
  | native
  | erc20 (address : String)
deriving DecidableEq

namespace Token

def isNative : Token → Bool
  | .native => true
  | .erc20 _ => false

/-- The address that stands for the token in token fields. -/
def address : Token → String
  | .native => Address.zero
  | .erc20 address => address

def record : Token → Record
  | .native => { kind := .native, fields := [("kind", .str "native")] }
  | .erc20 address =>
    { kind := .erc20, fields := [("kind", .str "erc20"), ("address", .str address)] }

/-- The token that an address in checksum form stands for. -/
def ofAddress (address : String) : Token :=
  if address = Address.zero then .native else .erc20 address

/-- A text field with a single admissible value. -/
def constant (expected : String) (value : Value) : Checked Unit :=
  match value with
  | .str s => if s = expected then .ok () else .fault (.wrongConstant expected)
  | _ => .fault (.wrongConstant expected)

def contractAddress (value : Value) : Checked String :=
  (Schema.address value).andThen fun form =>
    if form = Address.zero then .fault (.refused .nativeAsToken) else .ok form

def checkNative (inputs : Entries) : Checked Token :=
  (fun _ => .native) <$> optional inputs "kind" () (constant "native")

def checkErc20 (inputs : Entries) : Checked Token :=
  (fun _ address => .erc20 address) <$> optional inputs "kind" () (constant "erc20")
    <*> required inputs "address" contractAddress

/-- The form of a token that its tag names. -/
def checkTagged (inputs : Entries) : Checked Token :=
  match inputs.lookup "kind" with
  | none => .fault .noTag
  | some tag =>
    match tag with
    | .str "native" => (checkNative inputs).under (.key "native")
    | .str "erc20" => (checkErc20 inputs).under (.key "erc20")
    | tag => .fault (.unknownTag tag)

/-- A token reference: a token itself, or an address as text. -/
def resolve : Value → Except Address.Fault Token
  | .model .native _ => .ok .native
  | .model .erc20 fields =>
    match fields.lookup "address" with
    | some (.str address) => .ok (.erc20 address)
    | _ => .error ⟨.malformed, .model .erc20 fields⟩
  | value => (Address.read value).map ofAddress

/-- A token field: a text is resolved, anything else has to be a tagged token. -/
def check : Value → Checked Token
  | .str s =>
    match resolve (.str s) with
    | .ok token => .ok token
    | .error fault => .fault (.refused (.address fault))
  | .dict entries => checkTagged entries
  | .model _ fields => checkTagged fields
  | _ => .fault .untagged

end Token

end LayerTwo
