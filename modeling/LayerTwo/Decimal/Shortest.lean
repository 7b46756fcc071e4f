import LayerTwo.Decimal.Binary64

/-! The shortest decimal that reads back as a given double. A decimal reads back when it lies in
the interval of reals that round to the double, whose ends count when the mantissa is even. Powers
of ten are tried from coarse to fine: the first whose multiples meet the interval gives the fewest
digits, and of two neighbouring multiples the nearer one is taken. -/
namespace LayerTwo.Decimal

/-- Everything is scaled by `4 * 2 ^ -exponent`; `low` and `high` are the ends of the interval. -/
structure Interval where
  low : Nat
  middle : Nat
  high : Nat
  closed : Bool

def Interval.of (mantissa : Nat) (exponent : Int) : Interval where
  low := 4 * mantissa - (if mantissa = Nat.pow 2 52 ∧ -1074 < exponent then 1 else 2)
  middle := 4 * mantissa
  high := 4 * mantissa + 2
  closed := mantissa % 2 == 0

/-- Whether `point / scale` lies in the interval. -/
def Interval.holds (interval : Interval) (scale point : Nat) : Bool :=
  if interval.closed then interval.low * scale ≤ point && point ≤ interval.high * scale
  else interval.low * scale < point && point < interval.high * scale

/-- The multiple of `10 ^ power` nearest to the double, if one of its two neighbours on that grid
reads back; the even one on a tie. -/
def onGrid? (mantissa : Nat) (exponent power : Int) : Option Nat :=
  let interval := Interval.of mantissa exponent
  let step := Nat.pow 10 power.toNat * Nat.pow 2 (2 - exponent).toNat
  let scale := Nat.pow 2 (exponent - 2).toNat * Nat.pow 10 (-power).toNat
  let target := interval.middle * scale
  let below := target / step
  match interval.holds scale (below * step), interval.holds scale ((below + 1) * step) with
  | true, false => some below
  | false, true => some (below + 1)
  | false, false => none
  | true, true =>
    let shortfall := target - below * step
    let excess := (below + 1) * step - target
    if shortfall < excess ∨ (shortfall = excess ∧ below % 2 = 0) then some below
    else some (below + 1)

/-- A power of ten above every double with this exponent. -/
def coarsest (exponent : Int) : Int := (exponent + 54) * 30103 / 100000 + 2

/-- The digits of the shortest decimal and the power of ten of the last of them. -/
def shortest (mantissa : Nat) (exponent : Int) : Nat × Int :=
  let found := (List.range 400).findSome? fun (i : Nat) =>
    (onGrid? mantissa exponent (coarsest exponent - i)).map fun n => (n, coarsest exponent - i)
  found.getD (0, 0)

/-- The exponents of the first digit from `-4` up to `15` are written positionally, with at least
one digit after the point; all others with a signed exponent of at least two digits. -/
def finiteText (mantissa : Nat) (exponent : Int) : String :=
  let (number, power) := shortest mantissa exponent
  let digits := Nat.toDigits 10 number
  let lead : Int := power + digits.length - 1
  let zeros (n : Int) : List Char := List.replicate n.toNat '0'
  String.ofList <|
    if -4 ≤ lead ∧ lead < 0 then '0' :: '.' :: zeros (-lead - 1) ++ digits
    else if 0 ≤ lead ∧ lead < 16 then
      if 0 ≤ power then digits ++ zeros power ++ ['.', '0']
      else digits.take (lead.toNat + 1) ++ '.' :: digits.drop (lead.toNat + 1)
    else
      let fraction := if digits.length = 1 then [] else '.' :: digits.drop 1
      let places := Nat.toDigits 10 lead.natAbs
      digits.take 1 ++ fraction ++ 'e' :: (if lead < 0 then '-' else '+') ::
        zeros (2 - places.length) ++ places

def Binary64.text : Binary64 → String
  | .nan => "nan"
  | .infinite negative => if negative then "-inf" else "inf"
  | .finite negative mantissa exponent =>
    (if negative then "-" else "") ++ if mantissa = 0 then "0.0" else finiteText mantissa exponent

end LayerTwo.Decimal
