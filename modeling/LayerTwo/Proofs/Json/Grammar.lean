import LayerTwo.Json.Reader
import LayerTwo.Proofs.Text.Encoding

/-! The texts of JSON values. A value is written in many ways: blanks may stand around every token,
and a character of a string is written as itself or by an escape. The entries of an object are
written in order, so a text in which a key comes twice writes entries that repeat it. A number with
a fraction or an exponent is a double; digits alone are an integer. -/
namespace LayerTwo.Json

open LayerTwo.Text LayerTwo.Decimal

/-- Nothing but blanks. -/
def Blank (text : List Char) : Prop := ∀ c ∈ text, c = ' ' ∨ c = '\t' ∨ c = '\n' ∨ c = '\r'

/-! Strings -/

/-- The letters of the short escapes, with the characters that they stand for. -/
def shortEscapes : List (Char × Char) := [
  (quotationMark, quotationMark), (escapeMark, escapeMark), ('/', '/'), ('b', '\x08'),
  ('f', '\x0c'), ('n', '\n'), ('r', '\r'), ('t', '\t')]

/-- Four digits in either case spell a 16-bit unit. -/
def SpellsUnit (digits : List Char) (unit : Nat) : Prop :=
  digits.map Char.toLower = Hex.fixed 4 unit

def unitEscape (digits : List Char) : List Char := escapeMark :: 'u' :: digits

/-- A character of a string stands as itself or is escaped: by a letter if it has one, or by the
units that stand for it. -/
inductive WritesChar : Char → List Char → Prop where
  | plain {c : Char} (visible : 0x20 ≤ c.toNat) (noQuote : c ≠ quotationMark)
      (noEscape : c ≠ escapeMark) : WritesChar c [c]
  | short {letter c : Char} (listed : (letter, c) ∈ shortEscapes) :
      WritesChar c [escapeMark, letter]
  | unit {c : Char} {unit : Nat} {digits : List Char} (alone : units c = [unit])
      (spelled : SpellsUnit digits unit) : WritesChar c (unitEscape digits)
  | pair {c : Char} {high low : Nat} {first second : List Char} (both : units c = [high, low])
      (highSpelled : SpellsUnit first high) (lowSpelled : SpellsUnit second low) :
      WritesChar c (unitEscape first ++ unitEscape second)

inductive WritesChars : List Char → List Char → Prop where
  | nil : WritesChars [] []
  | cons {c : Char} {chars text rest : List Char} (first : WritesChar c text)
      (others : WritesChars chars rest) : WritesChars (c :: chars) (text ++ rest)

/-- The inside of a string writes exactly the characters of it. -/
def Exact (s : String) (inner : List Char) : Prop := WritesChars s.toList inner

/-- What may stand inside a string. The escape of a unit may be half of a pair that has no other
half, which stands for no character. -/
inductive Inside : List Char → Prop where
  | nil : Inside []
  | plain {c : Char} {rest : List Char} (visible : 0x20 ≤ c.toNat) (noQuote : c ≠ quotationMark)
      (noEscape : c ≠ escapeMark) (others : Inside rest) : Inside (c :: rest)
  | short {letter c : Char} {rest : List Char} (listed : (letter, c) ∈ shortEscapes)
      (others : Inside rest) : Inside (escapeMark :: letter :: rest)
  | unit {unit : Nat} {digits rest : List Char} (spelled : SpellsUnit digits unit)
      (others : Inside rest) : Inside (unitEscape digits ++ rest)

/-- The inside of a string is any that may stand there, whatever the string. -/
def Loose (_ : String) (inner : List Char) : Prop := Inside inner

/-- A string between its quotation marks; `spells` says what inside it has. -/
inductive WritesString (spells : String → List Char → Prop) : String → List Char → Prop where
  | quoted {s : String} {inner : List Char} (inside : spells s inner) :
      WritesString spells s (quotationMark :: (inner ++ [quotationMark]))

/-! Numbers -/

/-- Decimal digits, at least one. -/
structure Digits (text : List Char) : Prop where
  nonempty : text ≠ []
  all : ∀ c ∈ text, c.isDigit = true

inductive WritesSign : Bool → List Char → Prop where
  | none : WritesSign false []
  | minus : WritesSign true ['-']

inductive WritesFraction : List Char → List Char → Prop where
  | none : WritesFraction [] []
  | point {digits : List Char} (digital : Digits digits) : WritesFraction digits ('.' :: digits)

inductive WritesExponent : Option (Bool × List Char) → List Char → Prop where
  | none : WritesExponent none []
  | plain {mark : Char} {digits : List Char} (marked : mark = 'e' ∨ mark = 'E')
      (digital : Digits digits) : WritesExponent (some (false, digits)) (mark :: digits)
  | plus {mark : Char} {digits : List Char} (marked : mark = 'e' ∨ mark = 'E')
      (digital : Digits digits) : WritesExponent (some (false, digits)) (mark :: '+' :: digits)
  | minus {mark : Char} {digits : List Char} (marked : mark = 'e' ∨ mark = 'E')
      (digital : Digits digits) : WritesExponent (some (true, digits)) (mark :: '-' :: digits)

/-- The whole part of a numeral has no leading zeros. -/
inductive WritesNumeral : Numeral → List Char → Prop where
  | mk {negative : Bool} {whole : Nat} {fraction sign point power : List Char}
      {exponent : Option (Bool × List Char)} (signed : WritesSign negative sign)
      (pointed : WritesFraction fraction point) (raised : WritesExponent exponent power) :
      WritesNumeral ⟨negative, Nat.toDigits 10 whole, fraction, exponent⟩
        (sign ++ (Nat.toDigits 10 whole ++ (point ++ power)))

/-- A numeral that is more than digits stands for the double nearest to it. -/
def Numeral.double (numeral : Numeral) : Float :=
  let (down, places) := numeral.exponent.getD (false, [])
  nearestOfDigits numeral.negative (numeral.whole ++ numeral.fraction)
    (exponentOf down places - numeral.fraction.length)

/-! Values -/

mutual

/-- The text writes the value, without blanks around it. -/
inductive Writes (spells : String → List Char → Prop) : Value → List Char → Prop where
  | null : Writes spells .null ['n', 'u', 'l', 'l']
  | true : Writes spells (.bool true) ['t', 'r', 'u', 'e']
  | false : Writes spells (.bool false) ['f', 'a', 'l', 's', 'e']
  | integer {negative : Bool} {sign : List Char} (n : Nat) (signed : WritesSign negative sign) :
      Writes spells (.int (if negative then -n else n)) (sign ++ Nat.toDigits 10 n)
  | real {numeral : Numeral} {text : List Char} (written : WritesNumeral numeral text)
      (broken : numeral.fraction ≠ [] ∨ numeral.exponent ≠ none) :
      Writes spells (.float numeral.double) text
  | string {s : String} {text : List Char} (written : WritesString spells s text) :
      Writes spells (.str s) text
  | emptyArray {blank : List Char} (blanks : Blank blank) :
      Writes spells (.list []) ('[' :: (blank ++ [']']))
  | array {items : List Value} {text : List Char} (body : WritesItems spells items text) :
      Writes spells (.list items) ('[' :: text)
  | emptyObject {blank : List Char} (blanks : Blank blank) :
      Writes spells (.dict []) (openBrace :: (blank ++ [closeBrace]))
  | object {entries : Entries} {text : List Char} (body : WritesMembers spells entries text) :
      Writes spells (.dict entries) (openBrace :: text)

/-- The text writes the value, with any blanks around it. -/
inductive WritesPadded (spells : String → List Char → Prop) : Value → List Char → Prop where
  | mk {value : Value} {before text after : List Char} (leading : Blank before)
      (written : Writes spells value text) (trailing : Blank after) :
      WritesPadded spells value (before ++ (text ++ after))

/-- The items of an array with their commas, and the closing bracket. -/
inductive WritesItems (spells : String → List Char → Prop) : List Value → List Char → Prop where
  | last {item : Value} {text : List Char} (written : WritesPadded spells item text) :
      WritesItems spells [item] (text ++ [']'])
  | next {item : Value} {items : List Value} {text rest : List Char}
      (written : WritesPadded spells item text) (others : WritesItems spells items rest) :
      WritesItems spells (item :: items) (text ++ ',' :: rest)

/-- The members of an object with their commas, and the closing brace. -/
inductive WritesMembers (spells : String → List Char → Prop) : Entries → List Char → Prop where
  | last {key : String} {value : Value} {before name after text : List Char}
      (leading : Blank before) (named : WritesString spells key name) (trailing : Blank after)
      (written : WritesPadded spells value text) :
      WritesMembers spells [(key, value)]
        (before ++ (name ++ (after ++ ':' :: (text ++ [closeBrace]))))
  | next {key : String} {value : Value} {entries : Entries}
      {before name after text rest : List Char} (leading : Blank before)
      (named : WritesString spells key name) (trailing : Blank after)
      (written : WritesPadded spells value text) (others : WritesMembers spells entries rest) :
      WritesMembers spells ((key, value) :: entries)
        (before ++ (name ++ (after ++ ':' :: (text ++ ',' :: rest))))

end

/-- A JSON text: it has the form of some value, whether or not its strings stand for characters. -/
def IsText (text : List Char) : Prop := ∃ value, WritesPadded Loose value text

end LayerTwo.Json
