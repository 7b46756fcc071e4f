import LayerTwo.Hex.Digit
import LayerTwo.Value.Literal

/-! Hex values on the wire. A quantity is `0x` and digits without leading zeros, of at most 256
bits when read; data is `0x` and an even number of digits. The mark and the digits are read in
either case and written in lower case. -/
namespace LayerTwo.Hex

/-- Why a value is neither a quantity nor data. -/
inductive Fault where
  | notText (typeName : String)
  | notQuantity (value : Value)
  | oversized (value : Value)
  | notData (value : Value)
  | oddLength (value : Value)
  | wrongSize (expected : Int) (actual : Nat)

/-- Names the field a fault is about, if it has a name. -/
def place (field : Option String) : String :=
  match field with
  | none => ""
  | some name => if name.isEmpty then "" else " in " ++ name

/-- There is no message if what it shows cannot be shown. -/
def Fault.message? (field : Option String) : Fault → Option String
  | .notText typeName => some ("Expected hex string" ++ place field ++ ", got " ++ typeName)
  | .notQuantity value => do
    return "Invalid hex quantity" ++ place field ++ ": " ++ (← value.literal?)
  | .oversized value => do
    return "Hex quantity" ++ place field ++ " exceeds 256 bits: " ++ (← value.literal?)
  | .notData value => do
    return "Expected 0x-prefixed hex data" ++ place field ++ ", got " ++ (← value.literal?)
  | .oddLength value => do
    return "Odd-length hex data" ++ place field ++ ": " ++ (← value.literal?)
  | .wrongSize expected actual => do
    return "Expected " ++ (← Decimal.text? expected) ++ " bytes" ++ place field ++ ", got " ++
      toString actual

/-- What follows the mark `0x` or `0X`. -/
def unmark? : List Char → Option (List Char)
  | '0' :: 'x' :: rest => some rest
  | '0' :: 'X' :: rest => some rest
  | _ => none

/-- A single zero, or digits that do not start with one. -/
def isCanonical : List Char → Bool
  | [] => false
  | ['0'] => true
  | first :: rest => first != '0' && isDigit first && rest.all isDigit

/-- The number of digits of a quantity of 256 bits. -/
def quantityDigits : Nat := 64

def readQuantity : Value → Except Fault Nat
  | .str s =>
    match unmark? s.toList with
    | some text =>
      if isCanonical text then
        if text.length ≤ quantityDigits then .ok (value text) else .error (.oversized (.str s))
      else .error (.notQuantity (.str s))
    | none => .error (.notQuantity (.str s))
  | other => .error (.notText other.typeName)

def writeQuantity (n : Nat) : String := String.ofList ('0' :: 'x' :: digits n)

def checkSize (size : Option Int) (bytes : List UInt8) : Except Fault (List UInt8) :=
  match size with
  | none => .ok bytes
  | some expected =>
    if expected = bytes.length then .ok bytes else .error (.wrongSize expected bytes.length)

/-- Data, of the given number of bytes if there is one. The form is checked before the parity and
the parity before the size. -/
def readData (size : Option Int) : Value → Except Fault (List UInt8)
  | .str s =>
    match unmark? s.toList with
    | some text =>
      if text.all isDigit then
        match toBytes? text with
        | some bytes => checkSize size bytes
        | none => .error (.oddLength (.str s))
      else .error (.notData (.str s))
    | none => .error (.notData (.str s))
  | other => .error (.notData other)

def writeData (bytes : List UInt8) : String := String.ofList ('0' :: 'x' :: ofBytes bytes)

end LayerTwo.Hex
