import LayerTwo.Message.Call
import LayerTwo.Message.Token

/-! What a user wants done: a transfer on the second layer, or a withdrawal to the first. -/
namespace LayerTwo

open Schema

structure Transfer where
  options : GasOptions
  recipient : String
  amount : Int
  token : Token
  sender : String
deriving DecidableEq

namespace Transfer

def record (transfer : Transfer) : Record where
  kind := .transfer
  fields := transfer.options.fields ++
    [("to", .str transfer.recipient), ("amount", .int transfer.amount),
      ("token", transfer.token.record.toValue), ("from_address", .str transfer.sender)]

def check (inputs : Entries) : Checked Transfer :=
  GasOptions.checkFees Transfer.options <|
    Transfer.mk <$> GasOptions.check inputs
      <*> required inputs "to" Schema.address
      <*> required inputs "amount" natural
      <*> optional inputs "token" .native Token.check
      <*> required inputs senderName Schema.address

end Transfer

/-- The recipient of a withdrawal is an address on the first layer. -/
structure Withdrawal where
  options : GasOptions
  recipient : String
  amount : Int
  token : Token
  bridge : Option String
  sender : String
deriving DecidableEq

namespace Withdrawal

def record (withdrawal : Withdrawal) : Record where
  kind := .withdrawal
  fields := withdrawal.options.fields ++
    [("to", .str withdrawal.recipient), ("amount", .int withdrawal.amount),
      ("token", withdrawal.token.record.toValue),
      ("bridge_address", .ofOption .str withdrawal.bridge),
      ("from_address", .str withdrawal.sender)]

def check (inputs : Entries) : Checked Withdrawal :=
  GasOptions.checkFees Withdrawal.options <|
    Withdrawal.mk <$> GasOptions.check inputs
      <*> required inputs "to" Schema.address
      <*> required inputs "amount" natural
      <*> optional inputs "token" .native Token.check
      <*> optional inputs "bridge_address" none (nullable Schema.address)
      <*> required inputs senderName Schema.address

end Withdrawal

end LayerTwo
