import LayerTwo.Decimal.Reading
import LayerTwo.Failure

/-! Converting values: to an integer, to a hex quantity, to bytes, and to what stands at a key. -/
namespace LayerTwo.Value

open Decimal

/-- The ASCII character of a byte; a byte beyond ASCII is no part of any number. -/
def asciiChar (byte : UInt8) : Char := if byte < 0x80 then Char.ofNat byte.toNat else '?'

def integerOfText (value : Value) (text : List Char) : Except Failure Int :=
  match Decimal.integer text with
  | .ok n => .ok n
  | .error .malformed => .error (.badValue (.integerLiteral value))
  | .error (.tooLong digits) => .error (.badValue (.integerTooLong digits))

/-- A double is cut to its whole part. -/
def toInteger : Value → Except Failure Int
  | .bool b => .ok (if b then 1 else 0)
  | .int n => .ok n
  | .float x =>
    match Binary64.ofFloat x with
    | .nan => .error (.badValue .integerOfNan)
    | .infinite _ => .error (.badNumber .integerOfInfinity)
    | finite => .ok (finite.truncate?.getD 0)
  | .str s => integerOfText (.str s) s.toList
  | .bytes octets => integerOfText (.bytes (octets.take literalWidth)) (octets.map asciiChar)
  | other => .error (.badType (.notNumeric other.typeName))

/-- The hex quantity of a number that is not negative. -/
def toQuantity : Value → Except Failure String
  | .bool b => .ok (Hex.writeQuantity (if b then 1 else 0))
  | .int n =>
    if n < 0 then .error (.badValue (.negativeQuantity (.int n)))
    else .ok (Hex.writeQuantity n.toNat)
  | .float x =>
    if (Binary64.ofFloat x).isNegative then .error (.badValue (.negativeQuantity (.float x)))
    else .error (.badType (.notInteger "float"))
  | other => .error (.badType (.incomparable other.typeName))

theorem toQuantity_of_nonneg {n : Int} (nonneg : 0 ≤ n) :
    toQuantity (.int n) = .ok (Hex.writeQuantity n.toNat) := by
  rw [toQuantity, if_neg (Int.not_lt.mpr nonneg)]

theorem toQuantity_of_negative {n : Int} (negative : n < 0) :
    toQuantity (.int n) = .error (.badValue (.negativeQuantity (.int n))) := by
  rw [toQuantity, if_pos negative]

theorem toQuantity_natCast (n : Nat) : toQuantity (.int n) = .ok (Hex.writeQuantity n) :=
  toQuantity_of_nonneg (Int.natCast_nonneg n)

def toByte : Value → Except Failure UInt8
  | .bool b => .ok (if b then 1 else 0)
  | .int n =>
    if 0 ≤ n ∧ n < 256 then .ok (UInt8.ofNat n.toNat) else .error (.badValue .byteOutOfRange)
  | other => .error (.badType (.notInteger other.typeName))

/-- As many zero bytes as a number of 64 bits says. The largest numbers leave no place for what goes
with the bytes, and from 4 GiB on there is no room for the bytes. -/
def zeroBytes (n : Int) : Except Failure (List UInt8) :=
  if n < -Nat.pow 2 63 ∨ Nat.pow 2 63 ≤ n then .error (.badNumber .byteCount)
  else if n < 0 then .error (.badValue .negativeCount)
  else if Nat.pow 2 63 - 33 ≤ n then .error (.badNumber .byteString)
  else if Nat.pow 2 32 ≤ n then .error .outOfMemory
  else .ok (List.replicate n.toNat 0)

/-- A number gives as many zero bytes, a collection the bytes of its items. -/
def toBytes : Value → Except Failure (List UInt8)
  | .bytes octets => .ok octets
  | .str _ => .error (.badType .textAsBytes)
  | .bool b => .ok (List.replicate b.toNat 0)
  | .int n => zeroBytes n
  | value =>
    match Abi.itemsOf? value with
    | some items => items.mapM toByte
    | none => .error (.badType (.notBytes value.typeName))

/-- What stands at a key. -/
def item (key : String) : Value → Except Failure Value
  | .dict entries =>
    match entries.lookup key with
    | some value => .ok value
    | none => .error (.missingKey key)
  | .str _ => .error (.badType .textIndex)
  | .bytes _ => .error (.badType (.sequenceIndex "byte"))
  | .list _ => .error (.badType (.sequenceIndex "list"))
  | .tuple _ => .error (.badType (.sequenceIndex "tuple"))
  | other => .error (.badType (.notSubscriptable other.typeName))

/-- What stands at a key, null if nothing does. -/
def itemOrNull (key : String) : Value → Except Failure Value
  | .dict entries => .ok ((entries.lookup key).getD .null)
  | other => .error (.noAttribute other.typeName "get")

/-- The table with another value at a key. -/
def withItem (table : Value) (key : String) (value : Value) : Except Failure Value :=
  match table with
  | .dict entries => .ok (.dict (Entries.insert entries key value))
  | .list _ => .error (.badType (.sequenceIndex "list"))
  | other => .error (.badType (.notAssignable other.typeName))

end LayerTwo.Value
