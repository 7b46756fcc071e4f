/-! Hexadecimal digits, numbers and bytes. Reading takes digits of either case, writing gives
lower case; `value_digits` and `toBytes?_ofBytes` say that what is written reads back. -/
namespace LayerTwo.Hex

/-- The number a digit of either case stands for. -/
def digitValue? (c : Char) : Option Nat :=
  let code := c.toNat
  if 48 ≤ code ∧ code ≤ 57 then some (code - 48)
  else if 97 ≤ code ∧ code ≤ 102 then some (code - 87)
  else if 65 ≤ code ∧ code ≤ 70 then some (code - 55)
  else none

def isDigit (c : Char) : Bool := (digitValue? c).isSome

/-- The lower-case digit of a number below sixteen. -/
def digit (n : Nat) : Char := Char.ofNat (if n < 10 then 48 + n else 87 + n)

def value (text : List Char) : Nat :=
  text.foldl (fun n c => 16 * n + (digitValue? c).getD 0) 0

/-- The digits of a number, without leading zeros. -/
def digits (n : Nat) : List Char :=
  if n < 16 then [digit n] else digits (n / 16) ++ [digit (n % 16)]

/-- The last `width` digits of a number. -/
def fixed : (width n : Nat) → List Char
  | 0, _ => []
  | width + 1, n => fixed width (n / 16) ++ [digit (n % 16)]

def ofByte (byte : UInt8) : List Char := [digit (byte.toNat / 16), digit (byte.toNat % 16)]

def ofBytes (bytes : List UInt8) : List Char := bytes.flatMap ofByte

/-- The bytes that pairs of digits stand for. -/
def toBytes? : List Char → Option (List UInt8)
  | [] => some []
  | [_] => none
  | high :: low :: rest =>
    match digitValue? high, digitValue? low, toBytes? rest with
    | some h, some l, some bytes => some (UInt8.ofNat (16 * h + l) :: bytes)
    | _, _, _ => none

theorem digitValue?_digit {n : Nat} (small : n < 16) : digitValue? (digit n) = some n := by
  have all : ∀ m < 16, digitValue? (digit m) = some m := by decide
  exact all n small

theorem value_append_singleton (text : List Char) (c : Char) :
    value (text ++ [c]) = 16 * value text + (digitValue? c).getD 0 := by
  simp [value]

theorem value_digits (n : Nat) : value (digits n) = n := by
  fun_induction digits n with
  | case1 n small => simp [value, digitValue?_digit small]
  | case2 n large ih =>
    rw [value_append_singleton, ih, digitValue?_digit (Nat.mod_lt _ (by omega))]
    simp only [Option.getD_some]
    omega

theorem toBytes?_ofBytes (bytes : List UInt8) : toBytes? (ofBytes bytes) = some bytes := by
  induction bytes with
  | nil => rfl
  | cons byte rest ih =>
    have bound := byte.toNat_lt
    have high : byte.toNat / 16 < 16 := by omega
    have low : byte.toNat % 16 < 16 := by omega
    have whole : 16 * (byte.toNat / 16) + byte.toNat % 16 = byte.toNat := by omega
    simp only [ofBytes, List.flatMap_cons, ofByte, List.cons_append, List.nil_append, toBytes?,
      digitValue?_digit high, digitValue?_digit low]
    simp only [ofBytes] at ih
    simp only [ih, whole, UInt8.ofNat_toNat]

end LayerTwo.Hex
