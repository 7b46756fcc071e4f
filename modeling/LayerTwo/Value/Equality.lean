import LayerTwo.Decimal.Binary64
import LayerTwo.Value

/-! When two values count as equal. Truth values, integers and floats are compared as numbers;
tables are compared as sets of entries; a list never equals a tuple. -/
namespace LayerTwo.Value

/-- The value as an integer, if it is a number without a fractional part. -/
def whole? : Value → Option Int
  | .bool b => some (if b then 1 else 0)
  | .int n => some n
  | .float x => (Decimal.Binary64.ofFloat x).toInt?
  | _ => none

/-- Equality of two values that hold no others. -/
def sameAtom : Value → Value → Bool
  | .null, .null => true
  | .str s, .str t => s == t
  | .bytes a, .bytes b => a == b
  | .float x, .float y => x == y
  | a, b => match a.whole?, b.whole? with
    | some m, some n => m == n
    | _, _ => false

mutual

def same : Value → Value → Bool
  | .list a, .list b => sameItems a b
  | .tuple a, .tuple b => sameItems a b
  | .dict a, .dict b => a.length == b.length && sameEntries a b
  | .model k a, .model l b => k == l && a.length == b.length && sameEntries a b
  | a, b => sameAtom a b

def sameItems : List Value → List Value → Bool
  | [], [] => true
  | a :: restA, b :: restB => same a b && sameItems restA restB
  | _, _ => false

/-- Every entry of the first has its counterpart in the second. -/
def sameEntries : List (String × Value) → List (String × Value) → Bool
  | [], _ => true
  | (key, value) :: rest, other =>
    (match other.lookup key with
      | some counterpart => same value counterpart
      | none => false) && sameEntries rest other

end

end LayerTwo.Value
