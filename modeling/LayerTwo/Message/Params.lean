import LayerTwo.Record
import LayerTwo.Value.Conversion

/-! A call message as the parameters of a node request. What is not set is left out: the recipient
and the fees when they are null, the data, the gas limit and the access list when they are empty or
zero. `rpc` gives the same parameters with the quantities in hex. -/
namespace LayerTwo.Record

/-- An entry of the access list as a parameter. -/
def accessParam : Value → Except Failure Value
  | .model .accessEntry fields =>
    match Abi.itemsOf? ((fields.lookup "storage_keys").getD .null) with
    | some keys => .ok (.dict [("address", (fields.lookup "address").getD .null),
        ("storageKeys", .list keys)])
    | none => .error (.badType (.notIterable ((fields.lookup "storage_keys").getD .null).typeName))
  | .model .erc20 _ => .error (.noAttribute Kind.erc20.title "storage_keys")
  | .model .native _ => .error (.noAttribute Kind.native.title "storage_keys")
  | other => .error (.noAttribute other.typeName "address")

def accessParams (value : Value) : Except Failure Value :=
  match Abi.itemsOf? value with
  | some items => (items.mapM accessParam).map .list
  | none => .error (.badType (.notIterable value.typeName))

def dataParam (value : Value) : Except Failure Value :=
  value.toBytes.map fun octets => .str (Hex.writeData octets)

/-- A parameter that is there only under a condition. -/
def paramIf (present : Bool) (key : String) (value : Except Failure Value) :
    Except Failure Entries :=
  if present then value.map fun v => [(key, v)] else .ok []

/-- A parameter that is there unless it is null. -/
def paramUnlessNull (key : String) (value : Value) : Entries :=
  if value.isNull then [] else [(key, value)]

def params (record : Record) : Except Failure Entries := do
  record.call .params
  let data ← paramIf (record.get "data").truthy "data" (dataParam (record.get "data"))
  let gas ← paramIf (record.get "gas").truthy "gas" (.ok (record.get "gas"))
  let access ← paramIf (record.get "access_list").truthy "accessList"
    (accessParams (record.get "access_list"))
  return [("from", record.get "from_address"), ("value", record.get "value")] ++
    paramUnlessNull "to" (record.get "to") ++ data ++ gas ++
    paramUnlessNull "gasPrice" (record.get "gas_price") ++
    paramUnlessNull "maxFeePerGas" (record.get "gas_fee_cap") ++
    paramUnlessNull "maxPriorityFeePerGas" (record.get "gas_tip_cap") ++ access

/-- The parameters that are quantities. -/
def quantityKeys : List String :=
  ["value", "gas", "gasPrice", "maxFeePerGas", "maxPriorityFeePerGas"]

/-- A parameter with a quantity in hex. -/
def rpcParam (param : String × Value) : Except Failure (String × Value) :=
  if param.1 ∈ quantityKeys then param.2.toQuantity.map fun text => (param.1, .str text)
  else .ok param

def rpc (record : Record) : Except Failure Entries := do
  record.call .rpc
  (← record.params).mapM rpcParam

/-- The wire form of a range of blocks. -/
def rangeRpc (record : Record) : Except Failure Value := do
  record.call .rpc
  let first ← (record.get "beginning").toQuantity
  let last ← (record.get "end").toQuantity
  return .list [.str first, .str last]

/-- Whether a block has gone into a batch on the first layer. -/
def isSealed (record : Record) : Bool := !(record.get "l1_batch_number").isNull

end LayerTwo.Record
