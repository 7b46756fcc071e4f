import LayerTwo.Abi.Contract
import LayerTwo.Message.Intent
import LayerTwo.Message.Params
import LayerTwo.Value.Equality

/-! Building the call message of a transfer or withdrawal. The native currency is transferred as a
plain value and withdrawn through its system contract; a token is transferred by its own contract
and withdrawn through a bridge, the one named in the withdrawal before the default one. Building
works on records, so that a changed copy is checked again by the message it ends in. -/
namespace LayerTwo

open Operation

namespace Record

/-- Whether a token field holds the native currency. -/
def isNativeToken : Value → Except Failure Bool
  | .model .native _ => .ok true
  | .model .erc20 _ => .ok false
  | other => .error (.noAttribute other.typeName "is_native")

/-- The address of the token contract in a token field. -/
def tokenAddress : Value → Value
  | .model _ fields => (fields.lookup "address").getD .null
  | _ => .null

def optionNames : List String := ["gas", "gas_price", "gas_fee_cap", "gas_tip_cap", "access_list"]

/-- The sender and the options of a record, as inputs of a call message. -/
def callInputs (record : Record) : Entries :=
  ("from_address", record.get "from_address") ::
    optionNames.map fun name => (name, record.get name)

def makeCall (record : Record) (recipient value data : Value) : Except Failure CallMessage := do
  record.call .options
  let inputs := [("to", recipient), ("value", value), ("data", data)] ++ record.callInputs
  (CallMessage.check inputs).result .call

/-- What is said of a built message. It shows the value of the message. -/
def builtNotice? (what : String) (message : CallMessage) : Option String := do
  return "Built " ++ what ++ " call message: to=" ++
    (← (Value.ofOption .str message.recipient).text?) ++ ", value=" ++
    (← Decimal.text? message.value) ++ ", data=" ++ toString message.data.length ++ " bytes"

def logBuilt (what : String) (message : CallMessage) : Operation Abi.Loaded Unit :=
  logShown .debug .messages (builtNotice? what message)

def interfaceName (interface : Abi.Interface) : Value := .str interface.name

def zeroAmountNotice? (record : Record) : Option String := do
  return "Building zero-amount transfer to " ++ (← (record.get "to").text?)

def warnZeroAmount (record : Record) : Operation Abi.Loaded Unit :=
  if (record.get "amount").same (.int 0) then
    logShown .warning .messages record.zeroAmountNotice?
  else pure ()

def transferCall (record : Record) : Operation Abi.Loaded CallMessage := do
  record.warnZeroAmount
  let recipient := record.get "to"
  let amount := record.get "amount"
  let token := record.get "token"
  let message ←
    if ← ofExcept (isNativeToken token) then ofExcept (record.makeCall recipient amount (.bytes []))
    else do
      let data ← Abi.encodeCall (interfaceName .erc20) (.str "transfer") (.list [recipient, amount])
      ofExcept (record.makeCall (tokenAddress token) (.int 0) (.bytes data))
  logBuilt "transfer" message
  return message

def noBridgeNotice? (record : Record) : Option String := do
  return "No L2 bridge for withdrawal of token " ++
    (← (tokenAddress (record.get "token")).text?)

/-- The bridge of a token withdrawal. An empty bridge address counts as none. -/
def chooseBridge (record : Record) (default : Value) : Operation Abi.Loaded Value := do
  let own := record.get "bridge_address"
  let bridge := if own.truthy then own else default
  if bridge.isNull then
    logShown .error .messages record.noBridgeNotice?
    fail (.badValue .noBridge)
  else pure bridge

def noteIgnoredBridge (record : Record) : Operation Abi.Loaded Unit :=
  if (record.get "bridge_address").isNull then pure ()
  else log .debug .messages "Ignoring bridge_address for native currency withdrawal"

def withdrawalCall (record : Record) (default : Value) : Operation Abi.Loaded CallMessage := do
  let recipient := record.get "to"
  let amount := record.get "amount"
  let token := record.get "token"
  let message ←
    if ← ofExcept (isNativeToken token) then do
      record.noteIgnoredBridge
      let data ← Abi.encodeCall (interfaceName .ethToken) (.str "withdraw") (.list [recipient])
      ofExcept (record.makeCall (.str Address.nativeToken) amount (.bytes data))
    else do
      let data ← Abi.encodeCall (interfaceName .l2Bridge) (.str "withdraw")
        (.list [recipient, tokenAddress token, amount])
      let bridge ← record.chooseBridge default
      ofExcept (record.makeCall bridge (.int 0) (.bytes data))
  logBuilt "withdrawal" message
  return message

/-- The call message of a record; the default bridge matters only to withdrawals. -/
def toCall (record : Record) (defaultBridge : Value) : Operation Abi.Loaded CallMessage := do
  ofExcept (record.call .call)
  match record.kind with
  | .transfer => record.transferCall
  | .withdrawal => record.withdrawalCall defaultBridge
  | kind => fail (.noAttribute kind.title "to_call_msg")

end Record

def Transfer.toCall (transfer : Transfer) : Operation Abi.Loaded CallMessage :=
  transfer.record.transferCall

def Withdrawal.toCall (withdrawal : Withdrawal) (defaultBridge : Value) :
    Operation Abi.Loaded CallMessage :=
  withdrawal.record.withdrawalCall defaultBridge

end LayerTwo
