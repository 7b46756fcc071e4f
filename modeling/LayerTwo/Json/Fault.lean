import LayerTwo.Decimal.Writing
import LayerTwo.Text.Encoding

/-! Why a raw payload is not JSON. -/
namespace LayerTwo.Json

/-- What the grammar does not allow at some place of a text. -/
inductive Complaint where
  | value | comma | colon | propertyName | extraData
  | unterminated | controlCharacter | escape | unicodeEscape | byteOrderMark
deriving DecidableEq

def Complaint.message : Complaint → String
  | .value => "Expecting value"
  | .comma => "Expecting ',' delimiter"
  | .colon => "Expecting ':' delimiter"
  | .propertyName => "Expecting property name enclosed in double quotes"
  | .extraData => "Extra data"
  | .unterminated => "Unterminated string starting at"
  | .controlCharacter => "Invalid control character at"
  | .escape => "Invalid \\escape"
  | .unicodeEscape => "Invalid \\uXXXX escape"
  | .byteOrderMark => "Unexpected UTF-8 BOM (decode using utf-8-sig)"

/-- A place in a text: lines and columns count from one, the offset from zero. -/
structure Position where
  line : Nat
  column : Nat
  offset : Nat
deriving DecidableEq

/-- The place that comes after a part of the text. -/
def Position.after (part : List Char) : Position where
  line := 1 + part.count '\n'
  column := 1 + (part.reverse.takeWhile (· ≠ '\n')).length
  offset := part.length

def Position.message (position : Position) : String :=
  "line " ++ toString position.line ++ " column " ++ toString position.column ++
    " (char " ++ toString position.offset ++ ")"

inductive Fault where
  | syntaxAt (complaint : Complaint) (position : Position)
  | tooLong (digits : Nat)
  | undecodable (fault : Text.DecodeFault)
  | notText (typeName : String)

def Fault.message : Fault → String
  | .syntaxAt complaint position => complaint.message ++ ": " ++ position.message
  | .tooLong digits => Decimal.unreadMessage digits
  | .undecodable fault => fault.message
  | .notText typeName => "the JSON object must be str, bytes or bytearray, not " ++ typeName

end LayerTwo.Json
