import LayerTwo.Operation
import LayerTwo.Text.UpperCase
import LayerTwo.Value.Conversion
import LayerTwo.Value.Hash

/-! The known networks. The bundled table is read when a lookup first needs it and kept; callers
can change what is kept, until it is dropped. The endpoint and the bridge of a network are taken
from the caller, else from a variable of the environment that is named after the network, else from
the table. -/
namespace LayerTwo.Network

open Operation

def bundled : Entries := [
  ("zksync-era-mainnet", .dict [
    ("chainId", .int 324),
    ("rpc", .str "https://mainnet.era.zksync.io"),
    ("l2DefaultBridge", .str "0x11f943b2c77b743ab90f4a0ae7d5a4e7fca3e102")]),
  ("zksync-era-sepolia", .dict [
    ("chainId", .int 300),
    ("rpc", .str "https://sepolia.era.zksync.dev"),
    ("l2DefaultBridge", .str "0x681a1afdc2e06776816386500d2d461a6c96cb45")]),
  ("local", .dict [
    ("chainId", .int 270),
    ("rpc", .str "http://localhost:3050"),
    ("l2DefaultBridge", .null)])]

/-- The environment, and the table that is kept if there is one. -/
structure Registry where
  environment : List (String × String)
  table? : Option Entries

/-- What a variable of the environment says about a network. -/
inductive Setting where
  | rpcUrl | bridge
deriving DecidableEq

def Setting.ending : Setting → String
  | .rpcUrl => "_RPC_URL"
  | .bridge => "_L2_BRIDGE"

/-- The variable of a network: its name in upper case, underscores for hyphens, and the ending. -/
def variableName (network : String) (setting : Setting) : String :=
  let capitals := Text.upper network.toList
  String.ofList (capitals.map fun c => if c = '-' then '_' else c) ++ setting.ending

/-- Only texts have variables. -/
def variableOf (setting : Setting) : Value → Except Failure String
  | .str network => .ok (variableName network setting)
  | .bytes _ => .error (.badType .notBytesLike)
  | other => .error (.noAttribute other.typeName "upper")

def sortedNames (table : Entries) : List String := (table.map (·.1)).mergeSort (· ≤ ·)

/-- The network of the given name in a table. -/
def find (table : Entries) (name : Value) : Except Failure Value :=
  match name.unhashable? with
  | some typeName => .error (.badType (.unhashable typeName))
  | none =>
    let unknown := Except.error (Failure.badValue (.unknownNetwork name (sortedNames table)))
    match name with
    | .str s =>
      match table.lookup s with
      | some network => .ok network
      | none => unknown
    | _ => unknown

def load : Operation Registry Entries := do
  let registry ← get
  match registry.table? with
  | some table => pure table
  | none =>
    set { registry with table? := some bundled }
    log .debug .networks ("Loaded " ++ toString bundled.length ++ " network definitions")
    pure bundled

def network (name : Value) : Operation Registry Value := do ofExcept (find (← load) name)

/-- The value of a network's variable, if it is set and not empty. -/
def setting? (setting : Setting) (name : Value) : Operation Registry (Option String) := do
  let variableName ← ofExcept (variableOf setting name)
  let registry ← get
  return (registry.environment.lookup variableName).filter (!·.isEmpty)

def rpcUrl (name override : Value) : Operation Registry Value := do
  if override.truthy then return override
  match ← setting? .rpcUrl name with
  | some url => return .str url
  | none => ofExcept ((← network name).item "rpc")

def chainId (name : Value) : Operation Registry Int := do
  ofExcept ((← ofExcept ((← network name).item "chainId")).toInteger)

/-- The checksum form of a bridge address. -/
def bridgeAddress (value : Value) : Except Failure Value :=
  match Address.read value with
  | .ok form => .ok (.str form)
  | .error fault => .error (.badValue (.address fault))

def defaultBridge (name override : Value) : Operation Registry Value := do
  if override.truthy then ofExcept (bridgeAddress override)
  else
    match ← setting? .bridge name with
    | some address => ofExcept (bridgeAddress (.str address))
    | none =>
      let bridge ← ofExcept ((← network name).itemOrNull "l2DefaultBridge")
      if bridge.isNull then
        logShown .warning .networks
          (name.text?.map ("No default L2 bridge configured for network " ++ ·))
        return .null
      else ofExcept (bridgeAddress bridge)

def variableText : Value → Except Failure String
  | .str s => .ok s
  | other => .error (.badType (.notText other.typeName))

/-- What a variable is set to. Neither its name nor its value can hold a null character, and its
name holds something but no equals sign. -/
def variableValue (name : String) (value : Value) : Except Failure String := do
  let text ← variableText value
  if name.contains '\x00' || text.contains '\x00' then throw (.badValue .nullByte)
  else if name.contains '=' then throw (.badValue .variableName)
  else if name.isEmpty then throw .invalidArgument
  else return text

/-- Sets a variable of the environment, or takes it away if the value is null. -/
def setVariable (name value : Value) : Operation Registry Unit := do
  let name ← ofExcept (variableText name)
  let entry ←
    if value.isNull then pure none
    else do pure (some (name, ← ofExcept (variableValue name value)))
  let registry ← get
  let others := registry.environment.filter (·.1 != name)
  set { registry with environment := entry.toList ++ others }

/-- Changes a network in the table that is kept. -/
def assign (name : Value) (key : String) (value : Value) : Operation Registry Unit := do
  let changed ← ofExcept ((← network name).withItem key value)
  let registry ← get
  match registry.table?, name with
  | some table, .str s => set { registry with table? := some (Entries.insert table s changed) }
  | _, _ => pure ()

/-- Drops the table that is kept. -/
def reset : Operation Registry Unit := do set { ← get with table? := none }

def isLoaded : Operation Registry Bool := do return (← get).table?.isSome

/-- The steps of a run over one registry. -/
inductive Step where
  | load
  | network (name : Value)
  | rpcUrl (name override : Value)
  | chainId (name : Value)
  | defaultBridge (name override : Value)
  | setVariable (name value : Value)
  | assign (name : Value) (key : String) (value : Value)
  | reset
  | isLoaded

def Step.run : Step → Operation Registry Value
  | .load => Value.dict <$> Network.load
  | .network name => Network.network name
  | .rpcUrl name override => Network.rpcUrl name override
  | .chainId name => Value.int <$> Network.chainId name
  | .defaultBridge name override => Network.defaultBridge name override
  | .setVariable name value => do
    Network.setVariable name value
    return .null
  | .assign name key value => do
    Network.assign name key value
    return .null
  | .reset => do
    Network.reset
    return .null
  | .isLoaded => Value.bool <$> Network.isLoaded

end LayerTwo.Network
