import LayerTwo.Decimal.Shortest
import LayerTwo.Decimal.Writing
import LayerTwo.Text.Quoted
import LayerTwo.Value

/-! How messages show a value: `literal?` with quotes and escapes, `text?` with a text shown as it
is. A value that holds an integer with too many digits cannot be shown. -/
namespace LayerTwo.Value

def quote (s : String) : String := String.ofList (Text.quoted s.toList)

def bracketed (opening : String) (parts : List String) (closing : String) : String :=
  opening ++ ", ".intercalate parts ++ closing

/-- A tuple of one item keeps its comma. -/
def tupleLiteral : List String → String
  | [part] => "(" ++ part ++ ",)"
  | parts => bracketed "(" parts ")"

mutual

def literal? : Value → Option String
  | .null => some "None"
  | .bool b => some (if b then "True" else "False")
  | .int n => Decimal.text? n
  | .float x => some (Decimal.Binary64.ofFloat x).text
  | .str s => some (quote s)
  | .bytes octets => some (String.ofList (Text.quotedBytes octets))
  | .list items => (itemLiterals? items).map (bracketed "[" · "]")
  | .tuple items => (itemLiterals? items).map tupleLiteral
  | .dict entries => (entryLiterals? entries).map (bracketed "\x7b" · "\x7d")
  | .model kind fields => (fieldLiterals? fields).map (bracketed (kind.title ++ "(") · ")")

def itemLiterals? : List Value → Option (List String)
  | [] => some []
  | item :: rest => do return (← literal? item) :: (← itemLiterals? rest)

def entryLiterals? : List (String × Value) → Option (List String)
  | [] => some []
  | (key, value) :: rest => do
    return (quote key ++ ": " ++ (← literal? value)) :: (← entryLiterals? rest)

def fieldLiterals? : List (String × Value) → Option (List String)
  | [] => some []
  | (name, value) :: rest => do
    return (name ++ "=" ++ (← literal? value)) :: (← fieldLiterals? rest)

end

def text? : Value → Option String
  | .str s => some s
  | .model _ fields => (fieldLiterals? fields).map (" ".intercalate ·)
  | value => value.literal?

end LayerTwo.Value
