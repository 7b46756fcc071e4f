import LayerTwo.Decimal.Reading
import LayerTwo.Text.Encoding

/-! The items of a TOML document, and the readers of those that hold no others: strings, numbers,
dates and times. A reader takes the text that is left and returns what it read with the text after
it. -/
namespace LayerTwo.Toml

open LayerTwo.Text LayerTwo.Decimal

/-- The forms of a date or time. -/
inductive MomentForm where
  | date | time | dateTime
deriving DecidableEq

/-- A date or time is kept as it is written. -/
inductive Item where
  | text (s : String)
  | integer (n : Int)
  | float (x : Float)
  | boolean (b : Bool)
  | moment (form : MomentForm) (spelling : String)
  | array (items : List Item)
  | table (entries : List (String × Item))
deriving Inhabited

/-- The items of a table by their names, in the order the names first appear. -/
abbrev Table := List (String × Item)

inductive Fault where
  | malformed
  | tooLong (digits : Nat)
  | tooDeep
deriving DecidableEq

abbrev Reading (α : Type) := Except Fault (α × List Char)

def quotationMark : Char := '\x22'
def escapeMark : Char := '\x5c'
def apostrophe : Char := '\x27'

def isSpace (c : Char) : Bool := c == ' ' || c == '\t'
def isSpaceOrLine (c : Char) : Bool := isSpace c || c == '\n'

def skip (text : List Char) : List Char := text.dropWhile isSpace

/-- Control characters other than the tab. -/
def isControl (c : Char) : Bool := (c.toNat < 0x20 && c != '\t') || c == '\x7f'

/-- The text after the given start. -/
def after? : (start text : List Char) → Option (List Char)
  | [], text => some text
  | _, [] => none
  | c :: start, d :: text => if c = d then after? start text else none

def simpleEscape? (c : Char) : Option Char :=
  if c = quotationMark ∨ c = escapeMark then some c
  else if c = 'b' then some '\x08'
  else if c = 't' then some '\t'
  else if c = 'n' then some '\n'
  else if c = 'f' then some '\x0c'
  else if c = 'r' then some '\r'
  else if c = 'e' then some '\x1b'
  else none

/-- The number of digits of an escape by code point. -/
def codeDigits? (c : Char) : Option Nat :=
  if c = 'x' then some 2 else if c = 'u' then some 4 else if c = 'U' then some 8 else none

/-- The character that a number of hexadecimal digits stand for. -/
def readCode (count : Nat) (text : List Char) : Reading Char :=
  let digits := text.take count
  if digits.length = count ∧ digits.all Hex.isDigit then
    if h : (Hex.value digits).isValidChar then .ok (Char.ofNatAux _ h, text.drop count)
    else .error .malformed
  else .error .malformed

/-- What follows an escape mark; a line end and the blanks around it are escaped to nothing in a
string of several lines. -/
def readEscape (multiline : Bool) (text : List Char) : Reading (List Char) :=
  match text with
  | [] => .error .malformed
  | c :: rest =>
    if multiline && isSpaceOrLine c then
      match skip text with
      | [] => .ok ([], [])
      | '\n' :: rest => .ok ([], rest.dropWhile isSpaceOrLine)
      | _ => .error .malformed
    else
      match codeDigits? c, simpleEscape? c with
      | some count, _ => (readCode count rest).map fun (c, rest) => ([c], rest)
      | none, some c => .ok ([c], rest)
      | none, none => .error .malformed

/-- A basic string after its opening marks. The fuel is the length of the text. -/
def readBasic (multiline : Bool) : (fuel : Nat) → List Char → Reading (List Char)
  | 0, _ => .error .malformed
  | _, [] => .error .malformed
  | fuel + 1, c :: rest =>
    if c = quotationMark then
      if !multiline then .ok ([], rest)
      else
        match after? [quotationMark, quotationMark] rest with
        | some rest => .ok ([], rest)
        | none => (readBasic multiline fuel rest).map fun (text, rest) => (c :: text, rest)
    else if c = escapeMark then
      match readEscape multiline rest with
      | .error fault => .error fault
      | .ok (escaped, rest) =>
        (readBasic multiline fuel rest).map fun (text, rest) => (escaped ++ text, rest)
    else if isControl c && !(multiline && c == '\n') then .error .malformed
    else (readBasic multiline fuel rest).map fun (text, rest) => (c :: text, rest)

/-- A literal string after its opening marks, up to the given closing marks. -/
def readLiteral (multiline : Bool) (closing : List Char) : List Char → Reading (List Char)
  | [] => .error .malformed
  | c :: rest =>
    match after? closing (c :: rest) with
    | some rest => .ok ([], rest)
    | none =>
      if isControl c && !(multiline && c == '\n') then .error .malformed
      else (readLiteral multiline closing rest).map fun (text, rest) => (c :: text, rest)

/-- Up to two more marks after the closing ones belong to the string. -/
def takeMarks (mark : Char) (reading : List Char × List Char) : List Char × List Char :=
  match reading with
  | (text, c :: d :: rest) =>
    if c = mark then if d = mark then (text ++ [c, d], rest) else (text ++ [c], d :: rest)
    else (text, c :: d :: rest)
  | (text, [c]) => if c = mark then (text ++ [c], []) else (text, [c])
  | reading => reading

/-- A first line end is no part of a string of several lines. -/
def dropLine : List Char → List Char
  | '\n' :: rest => rest
  | rest => rest

/-- A string of one line, at its opening mark. -/
def readLine (text : List Char) : Reading String :=
  match text with
  | [] => .error .malformed
  | c :: rest =>
    if c = quotationMark then
      (readBasic false rest.length rest).map fun (text, rest) => (String.ofList text, rest)
    else if c = apostrophe then
      (readLiteral false [apostrophe] rest).map fun (text, rest) => (String.ofList text, rest)
    else .error .malformed

/-- A string of one or several lines, at its opening mark. -/
def readString (text : List Char) : Reading String :=
  match after? (List.replicate 3 quotationMark) text, after? (List.replicate 3 apostrophe) text with
  | some rest, _ =>
    (readBasic true (dropLine rest).length (dropLine rest)).map fun reading =>
      let (text, rest) := takeMarks quotationMark reading
      (String.ofList text, rest)
  | none, some rest =>
    (readLiteral true (List.replicate 3 apostrophe) (dropLine rest)).map fun reading =>
      let (text, rest) := takeMarks apostrophe reading
      (String.ofList text, rest)
  | none, none => readLine text

/-- Two digits, read as a number from `low` to `high`. -/
def twoDigits? (low high : Nat) : List Char → Option (Nat × List Char)
  | a :: b :: rest =>
    if a.isDigit && b.isDigit && low ≤ ofDigits [a, b] && ofDigits [a, b] ≤ high then
      some (ofDigits [a, b], rest)
    else none
  | _ => none

/-- The text after a fraction of a second, if there is one. -/
def dropFraction : List Char → List Char
  | '.' :: c :: rest => if c.isDigit then rest.dropWhile Char.isDigit else '.' :: c :: rest
  | rest => rest

/-- The text after a time; the seconds can be left out. -/
def time? (text : List Char) : Option (List Char) :=
  match twoDigits? 0 23 text with
  | some (_, ':' :: rest) =>
    match twoDigits? 0 59 rest with
    | some (_, ':' :: rest) =>
      match twoDigits? 0 59 rest with
      | some (_, rest) => some (dropFraction rest)
      | none => some (':' :: rest)
    | some (_, rest) => some rest
    | none => none
  | _ => none

/-- The text after the offset of a time, if there is one. -/
def dropOffset (text : List Char) : List Char :=
  match text with
  | 'Z' :: rest | 'z' :: rest => rest
  | sign :: rest =>
    if sign = '+' ∨ sign = '-' then
      match twoDigits? 0 23 rest with
      | some (_, ':' :: rest) => (twoDigits? 0 59 rest).elim text (·.2)
      | _ => text
    else text
  | [] => []

def isLeapYear (year : Nat) : Bool := year % 4 == 0 && (year % 100 != 0 || year % 400 == 0)

def daysIn (year month : Nat) : Nat :=
  if month = 2 then if isLeapYear year then 29 else 28
  else if month = 4 ∨ month = 6 ∨ month = 9 ∨ month = 11 then 30
  else 31

/-- The text after the time that goes with a date, and after its offset. -/
def clock? : List Char → Option (List Char)
  | mark :: rest =>
    if mark = 'T' ∨ mark = 't' ∨ mark = ' ' then (time? rest).map dropOffset else none
  | [] => none

/-- The form of a date with an optional time and the text after it, or a fault if there is no such
date. -/
def moment? (text : List Char) : Option (Except Fault (MomentForm × List Char)) :=
  let year := text.take 4
  if year.length = 4 ∧ year.all Char.isDigit then
    match text.drop 4 with
    | '-' :: rest =>
      match twoDigits? 1 12 rest with
      | some (month, '-' :: rest) =>
        match twoDigits? 1 31 rest with
        | some (day, rest) =>
          if 0 < ofDigits year ∧ day ≤ daysIn (ofDigits year) month then
            match clock? rest with
            | some rest => some (.ok (.dateTime, rest))
            | none => some (.ok (.date, rest))
          else some (.error .malformed)
        | none => none
      | _ => none
    | _ => none
  else none

/-- Digits of a base, with at most one underscore between two of them. -/
def digitRun (isDigit : Char → Bool) : List Char → List Char × List Char
  | [] => ([], [])
  | '_' :: c :: rest =>
    if isDigit c then
      let (digits, rest) := digitRun isDigit rest
      (c :: digits, rest)
    else ([], '_' :: c :: rest)
  | c :: rest =>
    if isDigit c then
      let (digits, rest) := digitRun isDigit rest
      (c :: digits, rest)
    else ([], c :: rest)

/-- Digits that start with a digit, if there are any. -/
def digits? (isDigit : Char → Bool) (text : List Char) : Option (List Char × List Char) :=
  match text with
  | c :: _ => if isDigit c then some (digitRun isDigit text) else none
  | [] => none

/-- The value of a digit of a base up to sixteen. -/
def valueIn (base : Nat) (digits : List Char) : Nat :=
  digits.foldl (fun n c => base * n + (Hex.digitValue? c).getD 0) 0

def isDigitIn (base : Nat) (c : Char) : Bool :=
  match Hex.digitValue? c with
  | some n => n < base
  | none => false

/-- An integer written after the mark of its base. -/
def prefixed? : List Char → Option (Item × List Char)
  | '0' :: mark :: rest =>
    let base? := if mark = 'x' then some 16 else if mark = 'b' then some 2
      else if mark = 'o' then some 8 else none
    match base? with
    | some base =>
      (digits? (isDigitIn base) rest).map fun (digits, rest) => (.integer (valueIn base digits), rest)
    | none => none
  | _ => none

/-- The fraction of a number, and the text after it. -/
def takeFraction (text : List Char) : List Char × List Char :=
  match text with
  | '.' :: rest => (digits? Char.isDigit rest).getD ([], text)
  | _ => ([], text)

/-- The exponent of a number, and the text after it. -/
def takeExponent (text : List Char) : Option Int × List Char :=
  match text with
  | mark :: rest =>
    if mark = 'e' ∨ mark = 'E' then
      let (negative, places) := takeSign rest
      match digits? Char.isDigit places with
      | some (digits, rest) => (some (exponentOf negative digits), rest)
      | none => (none, text)
    else (none, text)
  | [] => (none, [])

/-- A decimal number; a leading zero stands alone. -/
def decimal? (text : List Char) : Option (Except Fault Item × List Char) :=
  let (negative, body) := takeSign text
  let whole? := match body with
    | '0' :: rest => some (['0'], rest)
    | body => digits? Char.isDigit body
  whole?.map fun (whole, rest) =>
    let (fraction, rest) := takeFraction rest
    match takeExponent rest with
    | (none, rest) =>
      if fraction.isEmpty then
        if maxDigits < whole.length then (.error (.tooLong whole.length), rest)
        else (.ok (.integer (withSign negative (ofDigits whole))), rest)
      else (.ok (.float (nearestOfDigits negative (whole ++ fraction) (-fraction.length))), rest)
    | (some exponent, rest) =>
      let x := nearestOfDigits negative (whole ++ fraction) (exponent - fraction.length)
      (.ok (.float x), rest)

/-- The doubles that are written as words. -/
def special? (text : List Char) : Option (Item × List Char) :=
  let (negative, body) := takeSign text
  match body with
  | 'i' :: 'n' :: 'f' :: rest => some (.float (if negative then -(1 / 0) else 1 / 0), rest)
  | 'n' :: 'a' :: 'n' :: rest => some (.float (0 / 0), rest)
  | _ => none

/-- The part of a text that comes before a rest of it. -/
def taken (text rest : List Char) : String := String.ofList (text.take (text.length - rest.length))

/-- A date, time or number. -/
def readPlain (text : List Char) : Reading Item :=
  match moment? text with
  | some (.ok (form, rest)) => .ok (.moment form (taken text rest), rest)
  | some (.error fault) => .error fault
  | none =>
    match time? text with
    | some rest => .ok (.moment .time (taken text rest), rest)
    | none =>
      match prefixed? text with
      | some reading => .ok reading
      | none =>
        match decimal? text with
        | some (item, rest) => item.map (·, rest)
        | none =>
          match special? text with
          | some reading => .ok reading
          | none => .error .malformed

end LayerTwo.Toml
