import LayerTwo.Hex.Digit
import LayerTwo.Text.Printable

/-! Texts and byte strings in quotes, as messages show a value. Apostrophes are the quotes, unless
the text holds an apostrophe and no double quote. The quote and the backslash are written after a
backslash; what cannot be printed is written by its code. -/
namespace LayerTwo.Text

def apostrophe : Char := '\x27'
def doubleQuote : Char := '\x22'
def backslash : Char := '\x5c'

def quoteFor (text : List Char) : Char :=
  if text.contains apostrophe && !text.contains doubleQuote then doubleQuote else apostrophe

/-- A line end, carriage return or tab by its letter; any other code in the shortest of the
two-, four- and eight-digit forms. -/
def escapeCode (code : Nat) : List Char :=
  if code = 0x09 then [backslash, 't']
  else if code = 0x0A then [backslash, 'n']
  else if code = 0x0D then [backslash, 'r']
  else if code ≤ 0xFF then backslash :: 'x' :: Hex.fixed 2 code
  else if code ≤ 0xFFFF then backslash :: 'u' :: Hex.fixed 4 code
  else backslash :: 'U' :: Hex.fixed 8 code

def quotedChar (quote c : Char) : List Char :=
  if c = quote ∨ c = backslash then [backslash, c]
  else if isPrintable c then [c]
  else escapeCode c.toNat

def quoted (text : List Char) : List Char :=
  let quote := quoteFor text
  quote :: text.flatMap (quotedChar quote) ++ [quote]

def quotedByte (quote : Char) (byte : UInt8) : List Char :=
  if byte < 0x7F then quotedChar quote (Char.ofNat byte.toNat) else escapeCode byte.toNat

/-- A byte string carries the letter `b` before its quote. -/
def quotedBytes (bytes : List UInt8) : List Char :=
  let quote := quoteFor (bytes.map fun byte => Char.ofNat byte.toNat)
  'b' :: quote :: bytes.flatMap (quotedByte quote) ++ [quote]

end LayerTwo.Text
