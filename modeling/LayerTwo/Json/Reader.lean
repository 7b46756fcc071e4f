import LayerTwo.Decimal.Reading
import LayerTwo.Json.Fault
import LayerTwo.Value

/-! Reading JSON. Each reader takes the text that is left and returns what it read with the text
after that; a complaint keeps the text from the offending place on, from which the place is
counted. Beyond the standard, `NaN` and the two infinities are values. -/
namespace LayerTwo.Json

open LayerTwo.Text LayerTwo.Decimal

def quotationMark : Char := '\x22'
def escapeMark : Char := '\x5c'
def openBrace : Char := '\x7b'
def closeBrace : Char := '\x7d'

/-- Why reading stopped, with the text at the place where it stopped. -/
inductive Halt where
  | complaint (what : Complaint) (rest : List Char)
  | tooLong (digits : Nat)

abbrev Reading (α : Type) := Except Halt (α × List Char)

def isSpace (c : Char) : Bool := c == ' ' || c == '\t' || c == '\n' || c == '\r'

def skip (text : List Char) : List Char := text.dropWhile isSpace

/-- The character a one-letter escape stands for. -/
def simpleEscape? (c : Char) : Option Char :=
  if c = quotationMark ∨ c = escapeMark ∨ c = '/' then some c
  else if c = 'b' then some '\x08'
  else if c = 'f' then some '\x0c'
  else if c = 'n' then some '\n'
  else if c = 'r' then some '\r'
  else if c = 't' then some '\t'
  else none

/-- The 16-bit unit that four hexadecimal digits stand for. -/
def unit? (a b c d : Char) : Option Nat :=
  if [a, b, c, d].all Hex.isDigit then some (Hex.value [a, b, c, d]) else none

/-- What a string is made of: characters, and the 16-bit units of its escapes. -/
inductive Piece where
  | char (c : Char)
  | unit (unit : Nat)

/-- Two units that form a surrogate pair are one character. -/
def joinPieces : List Piece → List Char
  | [] => []
  | .unit high :: .unit low :: rest =>
    if isHighSurrogate high && isLowSurrogate low then
      charOfCode (joinSurrogates high low) :: joinPieces rest
    else charOfCode high :: joinPieces (.unit low :: rest)
  | .unit unit :: rest => charOfCode unit :: joinPieces rest
  | .char c :: rest => c :: joinPieces rest

/-- The pieces of a string after its opening quotation mark; `start` is the text at that mark. An
escape of four digits has to have a character behind it. -/
def readPieces (start : List Char) : List Char → Reading (List Piece)
  | [] => .error (.complaint .unterminated start)
  | c :: rest =>
    if c = quotationMark then .ok ([], rest)
    else if c = escapeMark then
      match rest with
      | [] => .error (.complaint .unterminated start)
      | 'u' :: a :: b :: c :: d :: rest =>
        if rest.isEmpty then .error (.complaint .unicodeEscape ('u' :: a :: b :: c :: d :: rest))
        else
          match unit? a b c d with
          | some unit =>
            (readPieces start rest).map fun (pieces, rest) => (.unit unit :: pieces, rest)
          | none => .error (.complaint .unicodeEscape ('u' :: a :: b :: c :: d :: rest))
      | e :: rest =>
        if e = 'u' then .error (.complaint .unicodeEscape (e :: rest))
        else
          match simpleEscape? e with
          | some c => (readPieces start rest).map fun (pieces, rest) => (.char c :: pieces, rest)
          | none => .error (.complaint .escape (escapeMark :: e :: rest))
    else if c.toNat ≤ 0x1F then .error (.complaint .controlCharacter (c :: rest))
    else (readPieces start rest).map fun (pieces, rest) => (.char c :: pieces, rest)

/-- A string, at the text after its opening quotation mark. -/
def readString (rest : List Char) : Reading String :=
  (readPieces (quotationMark :: rest) rest).map fun (pieces, rest) =>
    (String.ofList (joinPieces pieces), rest)

/-- A number as it is written. -/
structure Numeral where
  negative : Bool
  whole : List Char
  fraction : List Char
  exponent : Option (Bool × List Char)

/-- The digits after a point, if the point has any. -/
def takeFraction : List Char → List Char × List Char
  | '.' :: rest =>
    let digits := rest.takeWhile Char.isDigit
    if digits.isEmpty then ([], '.' :: rest) else (digits, rest.dropWhile Char.isDigit)
  | rest => ([], rest)

/-- The sign and digits after an exponent mark, if the mark has any digits. -/
def takeExponent : List Char → Option (Bool × List Char) × List Char
  | mark :: rest =>
    let (negative, places) := takeSign rest
    let digits := places.takeWhile Char.isDigit
    if (mark = 'e' ∨ mark = 'E') ∧ !digits.isEmpty then
      (some (negative, digits), places.dropWhile Char.isDigit)
    else (none, mark :: rest)
  | [] => (none, [])

/-- A zero stands alone; other digits are taken as far as they go. -/
def takeWhole : List Char → List Char × List Char
  | '0' :: rest => (['0'], rest)
  | rest => (rest.takeWhile Char.isDigit, rest.dropWhile Char.isDigit)

/-- The longest start of the text that is a number. -/
def numeral? (text : List Char) : Option (Numeral × List Char) :=
  let (negative, body) := match text with
    | '-' :: rest => (true, rest)
    | rest => (false, rest)
  let (whole, rest) := takeWhole body
  if whole.isEmpty then none
  else
    let (fraction, rest) := takeFraction rest
    let (exponent, rest) := takeExponent rest
    some (⟨negative, whole, fraction, exponent⟩, rest)

/-- Digits alone are an integer, which may not be too long; anything else is a double. -/
def Numeral.value (numeral : Numeral) : Except Halt Value :=
  match numeral.fraction, numeral.exponent with
  | [], none =>
    if maxDigits < numeral.whole.length then .error (.tooLong numeral.whole.length)
    else .ok (.int (withSign numeral.negative (ofDigits numeral.whole)))
  | fraction, exponent =>
    let (down, places) := exponent.getD (false, [])
    .ok <| .float <| nearestOfDigits numeral.negative (numeral.whole ++ fraction)
      (exponentOf down places - fraction.length)

def readNumber (text : List Char) : Reading Value :=
  match numeral? text with
  | none => .error (.complaint .value text)
  | some (numeral, rest) => numeral.value.map (·, rest)

/-- A value that is neither a string, an array nor an object. -/
def readAtom (text : List Char) : Reading Value :=
  match text with
  | 'n' :: 'u' :: 'l' :: 'l' :: rest => .ok (.null, rest)
  | 't' :: 'r' :: 'u' :: 'e' :: rest => .ok (.bool true, rest)
  | 'f' :: 'a' :: 'l' :: 's' :: 'e' :: rest => .ok (.bool false, rest)
  | 'N' :: 'a' :: 'N' :: rest => .ok (.float (0 / 0), rest)
  | 'I' :: 'n' :: 'f' :: 'i' :: 'n' :: 'i' :: 't' :: 'y' :: rest => .ok (.float (1 / 0), rest)
  | '-' :: 'I' :: 'n' :: 'f' :: 'i' :: 'n' :: 'i' :: 't' :: 'y' :: rest =>
    .ok (.float (-(1 / 0)), rest)
  | text => readNumber text

mutual

/-- One value. Twice the length of the text, and one, is fuel enough. -/
def readValue : (fuel : Nat) → List Char → Reading Value
  | 0, text => .error (.complaint .value text)
  | fuel + 1, text =>
    match text with
    | [] => .error (.complaint .value [])
    | c :: rest =>
      if c = quotationMark then (readString rest).map fun (s, rest) => (.str s, rest)
      else if c = '[' then
        match skip rest with
        | ']' :: rest => .ok (.list [], rest)
        | rest => (readItems fuel rest).map fun (items, rest) => (.list items, rest)
      else if c = openBrace then
        match skip rest with
        | [] => .error (.complaint .propertyName [])
        | d :: rest =>
          if d = closeBrace then .ok (.dict [], rest)
          else (readMembers fuel (d :: rest)).map fun (pairs, rest) =>
            (.dict (Entries.ofPairs pairs), rest)
      else readAtom (c :: rest)

/-- The items of an array, up to and with its closing bracket. -/
def readItems : (fuel : Nat) → List Char → Reading (List Value)
  | 0, text => .error (.complaint .value text)
  | fuel + 1, text =>
    match readValue fuel text with
    | .error halt => .error halt
    | .ok (item, rest) =>
      match skip rest with
      | ']' :: rest => .ok ([item], rest)
      | ',' :: rest => (readItems fuel (skip rest)).map fun (items, rest) => (item :: items, rest)
      | rest => .error (.complaint .comma rest)

/-- The members of an object, up to and with its closing brace. -/
def readMembers : (fuel : Nat) → List Char → Reading (List (String × Value))
  | 0, text => .error (.complaint .value text)
  | fuel + 1, text =>
    match text with
    | [] => .error (.complaint .propertyName [])
    | c :: rest =>
      if c = quotationMark then
        match readString rest with
        | .error halt => .error halt
        | .ok (key, rest) =>
          match skip rest with
          | ':' :: rest =>
            match readValue fuel (skip rest) with
            | .error halt => .error halt
            | .ok (value, rest) =>
              match skip rest with
              | ',' :: rest => (readMembers fuel (skip rest)).map fun (pairs, rest) =>
                  ((key, value) :: pairs, rest)
              | d :: rest =>
                if d = closeBrace then .ok ([(key, value)], rest)
                else .error (.complaint .comma (d :: rest))
              | [] => .error (.complaint .comma [])
          | rest => .error (.complaint .colon rest)
      else .error (.complaint .propertyName (c :: rest))

end

/-- One value with nothing but blanks around it. -/
def readWhole (text : List Char) : Except Halt Value :=
  match readValue (2 * text.length + 1) (skip text) with
  | .error halt => .error halt
  | .ok (value, rest) =>
    match skip rest with
    | [] => .ok value
    | rest => .error (.complaint .extraData rest)

/-- The fault of a reading of the text that stopped. -/
def Halt.fault (text : List Char) : Halt → Fault
  | .complaint what rest => .syntaxAt what (.after (text.take (text.length - rest.length)))
  | .tooLong digits => .tooLong digits

def decode (text : List Char) : Except Fault Value :=
  (readWhole text).mapError (Halt.fault text)

end LayerTwo.Json
