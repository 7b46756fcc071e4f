import LayerTwo.Decimal.Writing
import LayerTwo.Text.Blank

/-! Numbers read from text. `whole` is the form of an integer that a quantity field takes, `integer`
the one of a plain conversion, which knows the digits of every script. `float?` is the double
nearest to a decimal. -/
namespace LayerTwo.Decimal

open LayerTwo.Text

def ofDigits (digits : List Char) : Nat :=
  digits.foldl (fun n c => 10 * n + (c.toNat - 48)) 0

/-- Takes out single underscores, each between two digits. -/
def ungroup? : List Char → Option (List Char)
  | [] => none
  | [c] => if c.isDigit then some [c] else none
  | c :: '_' :: rest => if c.isDigit then (ungroup? rest).map (c :: ·) else none
  | c :: rest => if c.isDigit then (ungroup? rest).map (c :: ·) else none

/-- The sign in front, as "is negative", and what follows it. -/
def takeSign : List Char → Bool × List Char
  | '-' :: rest => (true, rest)
  | '+' :: rest => (false, rest)
  | rest => (false, rest)

def withSign (negative : Bool) (n : Nat) : Int := if negative then -n else n

inductive IntegerFault where
  | malformed
  | tooLong (digits : Nat)
deriving DecidableEq

/-- An integer in plain form: digits after a minus sign or none, of which the first is a zero only
if it stands alone. A run that is too long is told apart from whatever follows it. -/
def plain (text : List Char) : Except IntegerFault Int :=
  let (negative, body) := match text with
    | '-' :: rest => (true, rest)
    | _ => (false, text)
  let run := body.takeWhile Char.isDigit
  let width := run.length + negative.toNat
  if body = ['0'] then .ok 0
  else if run.isEmpty ∨ run.head? = some '0' then .error .malformed
  else if maxDigits < width then .error (.tooLong width)
  else if run = body then .ok (withSign negative (ofDigits run))
  else .error .malformed

/-- The text after a zero and the zeros and underscores that follow it, which may start with a minus
sign. At the end and before a point, the last of them stays. -/
def afterZeros? (last : Char) : List Char → Option (List Char)
  | [] => some [last]
  | c :: rest =>
    if c = '0' ∨ c = '_' then afterZeros? c rest
    else if c.isDigit ∨ c = '-' then some (c :: rest)
    else if c = '.' then some (last :: c :: rest)
    else none

/-- A text that starts with a digit, without leading zeros. -/
def dropZeros? : List Char → Option (List Char)
  | [] => none
  | c :: rest =>
    if c = '0' then afterZeros? c rest else if c.isDigit then some (c :: rest) else none

/-- The text without leading zeros after at most one sign; a plus sign is left out. -/
def dropLeadingZeros? : List Char → Option (List Char)
  | '-' :: rest => (dropZeros? rest).map ('-' :: ·)
  | '+' :: rest | rest => dropZeros? rest

/-- Takes out a point with nothing but zeros behind it. -/
def dropZeroFraction (text : List Char) : List Char :=
  let zeros := (text.dropWhile (· ≠ '.')).drop 1
  if !zeros.isEmpty && zeros.all (· == '0') then text.takeWhile (· ≠ '.') else text

/-- Takes out the underscores if each has other characters on both sides. -/
def dropUnderscores (text : List Char) : List Char :=
  let isDoubled := (text.zip (text.drop 1)).contains ('_', '_')
  if text.head? = some '_' ∨ text.getLast? = some '_' ∨ isDoubled then text
  else text.filter (· ≠ '_')

/-- An integer in plain form, or what is one between blanks once leading zeros, a fraction of zeros
and single underscores are taken out. Only a text that is too long as it stands is refused as
such. -/
def whole (text : List Char) : Except IntegerFault Int :=
  match plain text with
  | .error .malformed =>
    match dropLeadingZeros? (trim text) with
    | none => .error .malformed
    | some body =>
      match plain (dropUnderscores (dropZeroFraction body)) with
      | .ok n => .ok n
      | .error _ => .error .malformed
  | result => result

/-- The ASCII digit in place of a digit of another script. -/
def plainDigit (c : Char) : Char :=
  match decimalDigit? c with
  | some n => Char.ofNat (48 + n)
  | none => c

/-- An integer between blanks, in digits of any script. -/
def integer (text : List Char) : Except IntegerFault Int :=
  let (negative, body) := takeSign ((trim text).map plainDigit)
  let run := body.takeWhile fun c => c.isDigit || c == '_'
  match ungroup? run with
  | some digits =>
    if maxDigits < digits.length then .error (.tooLong digits.length)
    else if run.length = body.length then .ok (withSign negative (ofDigits digits))
    else .error .malformed
  | none => .error .malformed

/-- The double nearest to `mantissa * 10 ^ exponent`. Beyond the exponents of all doubles the
answer is known without computing the power. -/
def nearest (negative : Bool) (mantissa : Nat) (exponent : Int) : Float :=
  let places : Int := (Nat.toDigits 10 mantissa).length
  let magnitude : Float :=
    if mantissa = 0 ∨ exponent + places < -400 then 0
    else if 400 < exponent + places then 1 / 0
    else OfScientific.ofScientific mantissa (exponent < 0) exponent.natAbs
  if negative then -magnitude else magnitude

/-- The number of leading digits that decide a double. A point halfway between two doubles has
fewer; of the digits after them it only counts whether they are all zeros. -/
def decisiveDigits : Nat := 800

/-- The double nearest to a decimal with the given digits, the last of which counts powers of ten
of the given exponent. -/
def nearestOfDigits (negative : Bool) (digits : List Char) (exponent : Int) : Float :=
  let digits := digits.dropWhile (· == '0')
  let kept := ofDigits (digits.take decisiveDigits)
  let others := digits.drop decisiveDigits
  let exponent := exponent + others.length
  if others.all (· == '0') then nearest negative kept exponent
  else nearest negative (10 * kept + 1) (exponent - 1)

/-- An exponent that is written out. Beyond 18 digits it is as good as the least of 19. -/
def exponentOf (negative : Bool) (places : List Char) : Int :=
  let digits := places.dropWhile (· == '0')
  withSign negative (if 18 < digits.length then Nat.pow 10 18 else ofDigits digits)

/-- A decimal with optional sign, fraction and exponent. -/
def float? (text : List Char) : Option Float :=
  let (negative, body) := takeSign text
  let wholeDigits := body.takeWhile Char.isDigit
  let rest := body.dropWhile Char.isDigit
  let fraction := match rest with
    | '.' :: rest => rest.takeWhile Char.isDigit
    | _ => []
  let rest := match rest with
    | '.' :: rest => rest.dropWhile Char.isDigit
    | rest => rest
  if wholeDigits.isEmpty && fraction.isEmpty then none
  else
    let number (exponent : Int) :=
      some (nearestOfDigits negative (wholeDigits ++ fraction) (exponent - fraction.length))
    match rest with
    | [] => number 0
    | mark :: rest =>
      let (down, places) := takeSign rest
      if (mark = 'e' ∨ mark = 'E') ∧ !places.isEmpty ∧ places.all Char.isDigit then
        number (exponentOf down places)
      else none

end LayerTwo.Decimal
