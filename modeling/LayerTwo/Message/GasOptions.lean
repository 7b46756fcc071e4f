import LayerTwo.Record
import LayerTwo.Schema.Field

/-! The options that all messages share: the gas limit, the fees and the access list. A legacy gas
price and the two dynamic fees exclude each other. -/
namespace LayerTwo

open Schema

/-- An account and the storage keys that a call is going to touch. -/
structure AccessEntry where
  address : String
  storageKeys : List String
deriving DecidableEq

namespace AccessEntry

def record (entry : AccessEntry) : Record where
  kind := .accessEntry
  fields := [("address", .str entry.address), ("storage_keys", .tuple (entry.storageKeys.map .str))]

def checkFields (inputs : Entries) : Checked AccessEntry :=
  AccessEntry.mk <$> required inputs "address" Schema.address
    <*> optional inputs ⟨"storageKeys", "storage_keys"⟩ [] (sequence text)

def check (value : Value) : Checked AccessEntry :=
  (fieldsOf .accessEntry value).andThen checkFields

end AccessEntry

/-- A gas limit of zero leaves the limit to an estimate. -/
structure GasOptions where
  gas : Int
  gasPrice : Option Int
  feeCap : Option Int
  tipCap : Option Int
  accessList : List AccessEntry
deriving DecidableEq

namespace GasOptions

def fields (options : GasOptions) : Entries :=
  [("gas", .int options.gas), ("gas_price", .ofOption .int options.gasPrice),
    ("gas_fee_cap", .ofOption .int options.feeCap), ("gas_tip_cap", .ofOption .int options.tipCap),
    ("access_list", .tuple (options.accessList.map fun entry => entry.record.toValue))]

def check (inputs : Entries) : Checked GasOptions :=
  GasOptions.mk <$> optional inputs "gas" 0 natural
    <*> optional inputs "gas_price" none (nullable natural)
    <*> optional inputs "gas_fee_cap" none (nullable natural)
    <*> optional inputs "gas_tip_cap" none (nullable natural)
    <*> optional inputs "access_list" [] (sequence AccessEntry.check)

/-- A legacy price beside a dynamic fee. -/
def mixesFees (options : GasOptions) : Bool :=
  options.gasPrice.isSome && (options.feeCap.isSome || options.tipCap.isSome)

/-- The rule on fees is checked when all fields are valid. -/
def checkFees {α : Type} (optionsOf : α → GasOptions) (message : Checked α) : Checked α :=
  message.andThen fun m =>
    if (optionsOf m).mixesFees then .fault (.refused .mixedFees) else .ok m

end GasOptions

end LayerTwo
