import LayerTwo.Hex.Digit
import LayerTwo.Keccak
import LayerTwo.Value.Literal

/-! Account addresses. The checksum form of an address is `0x` and its 40 digits, in which a letter
is a capital exactly when the digit of the Keccak hash of the lower-case digits at its place is
eight or more. `normalize` brings every accepted spelling to that form. -/
namespace LayerTwo.Address

inductive Defect where
  | malformed | badChecksum
deriving DecidableEq

/-- Why a value is no address. -/
structure Fault where
  defect : Defect
  value : Value

def Fault.message? (fault : Fault) : Option String := do
  let complaint := match fault.defect with
    | .malformed => "Invalid address: "
    | .badChecksum => "Invalid address checksum: "
  return complaint ++ (← fault.value.literal?)

/-- The text without a mark in front. -/
def body : List Char → List Char
  | '0' :: 'x' :: rest => rest
  | '0' :: 'X' :: rest => rest
  | text => text

def isDigits (text : List Char) : Bool := text.length == 40 && text.all Hex.isDigit

/-- The two halves of each byte of the hash of the lower-case digits. -/
def weights (lower : List Char) : List Nat :=
  (Keccak.digestText lower).flatMap fun byte => [byte.toNat / 16, byte.toNat % 16]

/-- The checksum form of an address given by its digits in any case. -/
def checksum (text : List Char) : List Char :=
  let lower := text.map Char.toLower
  let raise (c : Char) (weight : Nat) : Char := if 8 ≤ weight then c.toUpper else c
  '0' :: 'x' :: List.zipWith raise lower (weights lower)

/-- Accepts 40 digits of one case, and the checksum form itself. -/
def normalize (text : List Char) : Except Defect (List Char) :=
  let digits := body text
  if isDigits digits then
    if digits = digits.map Char.toLower ∨ digits = digits.map Char.toUpper ∨ text = checksum digits
    then .ok (checksum digits)
    else .error .badChecksum
  else .error .malformed

/-- The checksum form of the address a value spells. -/
def read : Value → Except Fault String
  | .str s =>
    match normalize s.toList with
    | .ok form => .ok (String.ofList form)
    | .error defect => .error ⟨defect, .str s⟩
  | other => .error ⟨.malformed, other⟩

/-- The address of the 20 zero bytes, which stands for the native currency. -/
def zero : String := "0x0000000000000000000000000000000000000000"

/-- The system contract of the native currency. -/
def nativeToken : String := "0x000000000000000000000000000000000000800A"

end LayerTwo.Address
