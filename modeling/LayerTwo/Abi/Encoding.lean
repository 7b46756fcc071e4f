import LayerTwo.Abi.Entry
import LayerTwo.Address
import LayerTwo.Hex.Wire

/-! Call data. Every argument takes a word of 32 bytes; a byte string puts its offset there and
follows after all words, with its length in front and zeros up to a whole word. -/
namespace LayerTwo.Abi

/-- An argument in the form in which it is encoded. -/
inductive Argument where
  | number (n : Nat)
  | account (octets : List UInt8)
  | data (octets : List UInt8)
deriving DecidableEq

/-- The last `width` bytes of a number, the most significant first. -/
def bigEndian : (width n : Nat) → List UInt8
  | 0, _ => []
  | width + 1, n => bigEndian width (n / 256) ++ [UInt8.ofNat (n % 256)]

def word (n : Nat) : List UInt8 := bigEndian 32 n

/-- The numbers below this one fit a word. -/
def wordLimit : Nat := Nat.pow 2 256

/-- The zeros that bring a byte string to a whole number of words. -/
def filling (octets : List UInt8) : List UInt8 := List.replicate ((32 - octets.length % 32) % 32) 0

namespace Argument

/-- What follows the words. -/
def tail : Argument → List UInt8
  | .data octets => word octets.length ++ octets ++ filling octets
  | _ => []

/-- The word of the argument; `offset` is where its tail starts. -/
def head (offset : Nat) : Argument → List UInt8
  | .number n => word n
  | .account octets => List.replicate 12 0 ++ octets
  | .data _ => word offset

end Argument

/-- The words of the arguments, the first tail starting at `offset`. -/
def heads (offset : Nat) : List Argument → List UInt8
  | [] => []
  | argument :: rest => argument.head offset ++ heads (offset + argument.tail.length) rest

def encodeArguments (arguments : List Argument) : List UInt8 :=
  heads (32 * arguments.length) arguments ++ arguments.flatMap (·.tail)

/-- The bytes of an address written with 40 digits of any case, with or without a mark. -/
def addressBytes? (s : String) : Option (List UInt8) :=
  let digits := Address.body s.toList
  if digits.length = 40 then Hex.toBytes? digits else none

/-- The bytes of hex data after a mark in lower case. -/
def markedBytes? (s : String) : Option (List UInt8) :=
  match s.toList with
  | '0' :: 'x' :: digits => Hex.toBytes? digits
  | _ => none

/-- The argument that a value gives for a type, if it fits the type. -/
def Argument.ofValue? : AbiType → Value → Option Argument
  | .uint256, .int n => if 0 ≤ n ∧ n < wordLimit then some (.number n.toNat) else none
  | .bool, .bool b => some (.number (if b then 1 else 0))
  | .address, .str s => (addressBytes? s).map .account
  | .address, .bytes octets => if octets.length = 20 then some (.account octets) else none
  | .bytes, .bytes octets => some (.data octets)
  | .bytes, .str s => (markedBytes? s).map .data
  | _, _ => none

/-- As many values as types, each fitting its type. -/
def argumentsOf? : List AbiType → List Value → Option (List Argument)
  | [], [] => some []
  | type :: types, value :: values =>
    match Argument.ofValue? type value, argumentsOf? types values with
    | some argument, some arguments => some (argument :: arguments)
    | _, _ => none
  | _, _ => none

/-- A text in place of a byte string, with characters that no hex data has. -/
def isForeign : AbiType → Value → Bool
  | .bytes, .str s => s.toList.any fun c => 0x7f < c.toNat
  | _, _ => false

/-- An address given as text has to be in checksum form. -/
def isChecksummed : AbiType → Value → Bool
  | .address, .str s => s.toList == Address.checksum (Address.body s.toList)
  | _, _ => true

end LayerTwo.Abi
