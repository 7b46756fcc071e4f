import LayerTwo.Message.GasOptions

/-! Call messages: unsigned calls of a contract, or plain transfers of the native currency. -/
namespace LayerTwo

open Schema

structure CallMessage where
  options : GasOptions
  sender : String
  recipient : Option String
  value : Int
  data : List UInt8
deriving DecidableEq

/-- The sender of a message is given as `from` or by the field's name. -/
def senderName : Name := ⟨"from", "from_address"⟩

namespace CallMessage

def record (message : CallMessage) : Record where
  kind := .call
  fields := message.options.fields ++
    [("from_address", .str message.sender), ("to", .ofOption .str message.recipient),
      ("value", .int message.value), ("data", .bytes message.data)]

def check (inputs : Entries) : Checked CallMessage :=
  GasOptions.checkFees CallMessage.options <|
    CallMessage.mk <$> GasOptions.check inputs
      <*> required inputs senderName Schema.address
      <*> optional inputs "to" none (nullable Schema.address)
      <*> optional inputs "value" 0 natural
      <*> optional inputs "data" [] bytes

end CallMessage

end LayerTwo
