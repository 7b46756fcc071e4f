import LayerTwo.Payload.ParseError
import LayerTwo.Record
import LayerTwo.Schema.Field

/-! Blocks as a node reports them. A block carries the batch it went into on the first layer, which
is null while that batch is open. `rows` says how each field is written on the wire; a payload is
read row by row, and the first row that is wrong is reported. -/
namespace LayerTwo

open Schema

/-- A transaction by its hash, or in full. -/
inductive Transaction where
  | hash (octets : List UInt8)
  | full (entries : Entries)

structure Block where
  parentHash : List UInt8
  sha3Uncles : List UInt8
  miner : Option String
  stateRoot : List UInt8
  transactionsRoot : List UInt8
  receiptsRoot : List UInt8
  logsBloom : List UInt8
  difficulty : Int
  number : Int
  gasLimit : Int
  gasUsed : Int
  timestamp : Int
  extraData : List UInt8
  mixHash : List UInt8
  nonce : List UInt8
  baseFee : Option Int
  uncles : List (List UInt8)
  hash : Option (List UInt8)
  batchNumber : Option Int
  batchTimestamp : Option Int
  totalDifficulty : Option Int
  size : Option Int
  sealFields : List Value
  transactions : List Transaction

namespace Transaction

def toValue : Transaction → Value
  | .hash octets => .bytes octets
  | .full entries => .dict entries

/-- A byte string is preferred to a table. -/
def check : Value → Checked Transaction
  | .dict entries => .ok (.full entries)
  | value =>
    match bytes value with
    | .ok octets => .ok (.hash octets)
    | .faulty _ => .faulty [⟨[.key "bytes"], .bytesType⟩, ⟨[.key "dict[str,any]"], .dictType⟩]

end Transaction

namespace Block

def record (block : Block) : Record where
  kind := .block
  fields := [
    ("parent_hash", .bytes block.parentHash), ("sha3_uncles", .bytes block.sha3Uncles),
    ("miner", .ofOption .str block.miner), ("state_root", .bytes block.stateRoot),
    ("transactions_root", .bytes block.transactionsRoot),
    ("receipts_root", .bytes block.receiptsRoot), ("logs_bloom", .bytes block.logsBloom),
    ("difficulty", .int block.difficulty), ("number", .int block.number),
    ("gas_limit", .int block.gasLimit), ("gas_used", .int block.gasUsed),
    ("timestamp", .int block.timestamp), ("extra_data", .bytes block.extraData),
    ("mix_hash", .bytes block.mixHash), ("nonce", .bytes block.nonce),
    ("base_fee_per_gas", .ofOption .int block.baseFee),
    ("uncles", .tuple (block.uncles.map .bytes)), ("hash", .ofOption .bytes block.hash),
    ("l1_batch_number", .ofOption .int block.batchNumber),
    ("l1_batch_timestamp", .ofOption .int block.batchTimestamp),
    ("total_difficulty", .ofOption .int block.totalDifficulty),
    ("size", .ofOption .int block.size), ("seal_fields", .tuple block.sealFields),
    ("transactions", .tuple (block.transactions.map (·.toValue)))]

def check (inputs : Entries) : Checked Block :=
  Block.mk <$> required inputs "parent_hash" bytes
    <*> required inputs "sha3_uncles" bytes
    <*> optional inputs "miner" none (nullable text)
    <*> required inputs "state_root" bytes
    <*> required inputs "transactions_root" bytes
    <*> required inputs "receipts_root" bytes
    <*> required inputs "logs_bloom" bytes
    <*> required inputs "difficulty" integer
    <*> required inputs "number" integer
    <*> required inputs "gas_limit" integer
    <*> required inputs "gas_used" integer
    <*> required inputs "timestamp" integer
    <*> required inputs "extra_data" bytes
    <*> optional inputs "mix_hash" (List.replicate 32 0) bytes
    <*> optional inputs "nonce" (List.replicate 8 0) bytes
    <*> optional inputs "base_fee_per_gas" none (nullable integer)
    <*> optional inputs "uncles" [] (sequence bytes)
    <*> optional inputs "hash" none (nullable bytes)
    <*> optional inputs "l1_batch_number" none (nullable integer)
    <*> optional inputs "l1_batch_timestamp" none (nullable integer)
    <*> optional inputs "total_difficulty" none (nullable integer)
    <*> optional inputs "size" none (nullable integer)
    <*> optional inputs "seal_fields" [] (sequence Checked.ok)
    <*> optional inputs "transactions" [] (sequence Transaction.check)

/-- How a field is written on the wire. -/
inductive Codec where
  | data (size : Option Int)
  | quantity
  | address
  | hashes
  | anything
  | transactions

/-- Whether a row has to be given. -/
inductive Presence where
  | needed | maybe
deriving DecidableEq

/-- A field by its key on the wire and by its name in the block. -/
structure Row where
  key : String
  name : String
  codec : Codec
  presence : Presence

def hashCodec : Codec := .data (some 32)
def bloomCodec : Codec := .data (some 256)
def nonceCodec : Codec := .data (some 8)

def rows : List Row := [
  ⟨"parentHash", "parent_hash", hashCodec, .needed⟩,
  ⟨"sha3Uncles", "sha3_uncles", hashCodec, .needed⟩,
  ⟨"miner", "miner", .address, .maybe⟩,
  ⟨"stateRoot", "state_root", hashCodec, .needed⟩,
  ⟨"transactionsRoot", "transactions_root", hashCodec, .needed⟩,
  ⟨"receiptsRoot", "receipts_root", hashCodec, .needed⟩,
  ⟨"logsBloom", "logs_bloom", bloomCodec, .needed⟩,
  ⟨"difficulty", "difficulty", .quantity, .needed⟩,
  ⟨"number", "number", .quantity, .needed⟩,
  ⟨"gasLimit", "gas_limit", .quantity, .needed⟩,
  ⟨"gasUsed", "gas_used", .quantity, .needed⟩,
  ⟨"timestamp", "timestamp", .quantity, .needed⟩,
  ⟨"extraData", "extra_data", .data none, .needed⟩,
  ⟨"mixHash", "mix_hash", hashCodec, .maybe⟩,
  ⟨"nonce", "nonce", nonceCodec, .maybe⟩,
  ⟨"baseFeePerGas", "base_fee_per_gas", .quantity, .maybe⟩,
  ⟨"uncles", "uncles", .hashes, .maybe⟩,
  ⟨"hash", "hash", hashCodec, .maybe⟩,
  ⟨"l1BatchNumber", "l1_batch_number", .quantity, .maybe⟩,
  ⟨"l1BatchTimestamp", "l1_batch_timestamp", .quantity, .maybe⟩,
  ⟨"totalDifficulty", "total_difficulty", .quantity, .maybe⟩,
  ⟨"size", "size", .quantity, .maybe⟩,
  ⟨"sealFields", "seal_fields", .anything, .maybe⟩,
  ⟨"transactions", "transactions", .transactions, .maybe⟩]

def readHash (value : Value) : Except Payload.Fault Value :=
  match Hex.readData (some 32) value with
  | .ok octets => .ok (.bytes octets)
  | .error fault => .error (.hex fault)

def readTransaction : Value → Except Payload.Fault Value
  | .dict entries => .ok (.dict entries)
  | value => readHash value

/-- Every item of an array, up to the first that is wrong. -/
def readArray (read : Value → Except Payload.Fault Value) : Value → Except Payload.Fault Value
  | .list items => (items.mapM read).map .tuple
  | other => .error (.notArray other.typeName)

def Codec.read : Codec → Value → Except Payload.Fault Value
  | .data size, value => (Hex.readData size value).mapError .hex |>.map .bytes
  | .quantity, value => (Hex.readQuantity value).mapError .hex |>.map fun n => .int n
  | .address, value => (Address.read value).mapError (fun _ => .address value) |>.map .str
  | .hashes, value => readArray readHash value
  | .anything, value => readArray .ok value
  | .transactions, value => readArray readTransaction value

/-- The field of a row, none if it is not given. A null counts as not given. -/
def Row.read (row : Row) (payload : Entries) : Except ParseError (Option (String × Value)) :=
  match (payload.lookup row.key).getD .null with
  | .null =>
    match row.presence with
    | .needed => .error ⟨.missing, some row.key⟩
    | .maybe => .ok none
  | value =>
    match row.codec.read value with
    | .ok read => .ok (some (row.name, read))
    | .error fault => .error ⟨fault, some row.key⟩

/-- The fields of the given rows, or the error of the first row that is wrong. -/
def readRows (payload : Entries) : List Row → Except ParseError Entries
  | [] => .ok []
  | row :: rest => do
    let field ← row.read payload
    let fields ← readRows payload rest
    return field.toList ++ fields

/-- The inputs of a block, from its wire form. -/
def inputsOfWire : Value → Except ParseError Entries
  | .dict payload => readRows payload rows
  | other => .error ⟨.notObject other.typeName, none⟩

end Block

end LayerTwo
