/-! Double-precision numbers taken apart: a finite one is a whole multiple of a power of two, so
everything about it can be said in integers. -/
namespace LayerTwo.Decimal

/-- A finite number is `mantissa * 2 ^ exponent`, negated if `negative`. -/
inductive Binary64 where
  | nan
  | infinite (negative : Bool)
  | finite (negative : Bool) (mantissa : Nat) (exponent : Int)
deriving DecidableEq

namespace Binary64

def ofBits (bits : UInt64) : Binary64 :=
  let negative := bits >>> 63 == 1
  let biased := ((bits >>> 52) &&& 0x7FF).toNat
  let fraction := (bits &&& 0xFFFFFFFFFFFFF).toNat
  if biased = 0x7FF then
    if fraction = 0 then .infinite negative else .nan
  else if biased = 0 then .finite negative fraction (-1074)
  else .finite negative (Nat.pow 2 52 + fraction) (biased - 1075)

def ofFloat (x : Float) : Binary64 := ofBits x.toBits

/-- The number without its fractional part. -/
def truncate? : Binary64 → Option Int
  | .finite negative mantissa exponent =>
    let magnitude := mantissa * Nat.pow 2 exponent.toNat / Nat.pow 2 (-exponent).toNat
    some (if negative then -magnitude else magnitude)
  | _ => none

def isWhole : Binary64 → Bool
  | .finite _ mantissa exponent => mantissa % Nat.pow 2 (-exponent).toNat == 0
  | _ => false

/-- The number as an integer, if it is one. -/
def toInt? (x : Binary64) : Option Int := if x.isWhole then x.truncate? else none

def isNegative : Binary64 → Bool
  | .infinite negative => negative
  | .finite negative mantissa _ => negative && mantissa != 0
  | .nan => false

end Binary64

end LayerTwo.Decimal
