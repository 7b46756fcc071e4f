import LayerTwo.Decimal.Binary64
import LayerTwo.Value

/-! The key under which a value is hashed. A number has the key of its residue modulo the prime
`2 ^ 61 - 1`, whatever its type; a text has the key of the bytes that store it; NaN is known only by
where it comes from. Two hashes agree when their keys are equal. -/
namespace LayerTwo.Value

inductive HashKey where
  | null
  | number (n : Int)
  | nan (origin : Nat)
  | octets (octets : List UInt8)
  | sequence (parts : List HashKey)
deriving BEq

def hashModulus : Nat := Nat.pow 2 61 - 1

/-- The residue of a number has its sign; `-1` is taken for `-2`. -/
def numberKey (n : Int) : HashKey :=
  let residue := n.tmod hashModulus
  .number (if residue = -1 then -2 else residue)

/-- What the infinities are hashed to, up to the sign. -/
def infinityKey : Int := 314159

/-- As `2 ^ 61` is one modulo the prime, only the remainder of an exponent by 61 counts. -/
def floatKey (origin : Nat) (x : Float) : HashKey :=
  match Decimal.Binary64.ofFloat x with
  | .nan => .nan origin
  | .infinite negative => .number (if negative then -infinityKey else infinityKey)
  | .finite negative mantissa exponent =>
    let scaled : Int := mantissa * Nat.pow 2 (exponent % 61).toNat
    numberKey (if negative then -scaled else scaled)

/-- The lowest `width` bytes of a code point, the least significant first. -/
def storedBytes : (width code : Nat) → List UInt8
  | 0, _ => []
  | width + 1, code => UInt8.ofNat (code % 256) :: storedBytes width (code / 256)

/-- The bytes that store a text: one, two or four for each character, as the largest needs. -/
def storage (s : String) : List UInt8 :=
  let codes := s.toList.map (·.toNat)
  let width := if codes.all (· < 0x100) then 1 else if codes.all (· < 0x10000) then 2 else 4
  codes.flatMap (storedBytes width)

def octetsKey (octets : List UInt8) : HashKey :=
  if octets.isEmpty then .number 0 else .octets octets

def HashKey.number? : HashKey → Option Int
  | .number n => some n
  | _ => none

/-- Mixes a number into a running hash of 64 bits. -/
def mixIn (hash : UInt64) (n : Int) : UInt64 :=
  let hash := hash + UInt64.ofInt n * 14029467366897019727
  ((hash <<< 31) ||| (hash >>> 33)) * 11400714785074694791

/-- The hash of a sequence of numbers, as a signed number. -/
def mixed (numbers : List Int) : Int :=
  let start : UInt64 := 2870177450012600261
  let hash := numbers.foldl mixIn start + (UInt64.ofNat numbers.length ^^^ (start ^^^ 3527539))
  if hash + 1 = 0 then 1546275796 else hash.toInt64.toInt

/-- A sequence of numbers is hashed to a number. -/
def sequenceKey (parts : List HashKey) : HashKey :=
  match parts.mapM HashKey.number? with
  | some numbers => .number (mixed numbers)
  | none => .sequence parts

/-- The key of a model with the given keys of its fields; a single field stands for the model. -/
def modelKey : List HashKey → HashKey
  | [key] => key
  | keys => sequenceKey keys

mutual

/-- Lists and tables cannot be hashed; the error names the type of the first that is met. -/
def hashKey (origin : Nat) : Value → Except String HashKey
  | .null => .ok .null
  | .bool b => .ok (.number (if b then 1 else 0))
  | .int n => .ok (numberKey n)
  | .float x => .ok (floatKey origin x)
  | .str s => .ok (octetsKey (storage s))
  | .bytes octets => .ok (octetsKey octets)
  | .list _ => .error "list"
  | .dict _ => .error "dict"
  | .tuple items => (itemKeys origin items).map sequenceKey
  | .model _ fields => (fieldKeys origin fields).map modelKey

def itemKeys (origin : Nat) : List Value → Except String (List HashKey)
  | [] => .ok []
  | item :: rest =>
    match hashKey origin item with
    | .error name => .error name
    | .ok key => (itemKeys origin rest).map (key :: ·)

def fieldKeys (origin : Nat) : List (String × Value) → Except String (List HashKey)
  | [] => .ok []
  | (_, value) :: rest =>
    match hashKey origin value with
    | .error name => .error name
    | .ok key => (fieldKeys origin rest).map (key :: ·)

end

/-- The type that keeps the value from being hashed. -/
def unhashable? (value : Value) : Option String :=
  match value.hashKey 0 with
  | .ok _ => none
  | .error typeName => some typeName

end LayerTwo.Value
