import LayerTwo.Abi.Encoding
import Mathlib

/-! Words of call data: 32 bytes, the most significant first. A number below the word limit reads
back from its word, so no two such numbers share one. -/
namespace LayerTwo.Abi

/-- The number that bytes stand for, the most significant first. -/
def numberOf (bytes : List UInt8) : Nat := bytes.foldl (fun n byte => 256 * n + byte.toNat) 0

/-- The bytes are the word of a number. -/
structure IsWord (bytes : List UInt8) (n : Nat) : Prop where
  length : bytes.length = 32
  number : numberOf bytes = n

theorem wordLimit_eq : wordLimit = 2 ^ 256 := rfl

theorem length_bigEndian (width n : Nat) : (bigEndian width n).length = width := by
  induction width generalizing n with
  | zero => rfl
  | succ width ih => rw [bigEndian, List.length_append, ih, List.length_singleton]

theorem numberOf_append_singleton (bytes : List UInt8) (byte : UInt8) :
    numberOf (bytes ++ [byte]) = 256 * numberOf bytes + byte.toNat := by
  simp [numberOf]

theorem numberOf_bigEndian {width n : Nat} (fits : n < 256 ^ width) :
    numberOf (bigEndian width n) = n := by
  induction width generalizing n with
  | zero =>
    simp only [Nat.pow_zero, Nat.lt_one_iff] at fits
    rw [fits]
    rfl
  | succ width ih =>
    have high : n / 256 < 256 ^ width := by
      rw [Nat.div_lt_iff_lt_mul (by decide), ← Nat.pow_succ]
      exact fits
    have low : (UInt8.ofNat (n % 256)).toNat = n % 256 :=
      Nat.mod_eq_of_lt (Nat.mod_lt n (by decide))
    rw [bigEndian, numberOf_append_singleton, ih high, low, Nat.div_add_mod]

theorem length_word (n : Nat) : (word n).length = 32 := length_bigEndian 32 n

theorem isWord_word {n : Nat} (fits : n < wordLimit) : IsWord (word n) n where
  length := length_word n
  number := numberOf_bigEndian (fits.trans_eq (by rw [wordLimit_eq]; norm_num))

theorem word_injective {m n : Nat} (left : m < wordLimit) (right : n < wordLimit)
    (same : word m = word n) : m = n := by
  rw [← (isWord_word left).number, same, (isWord_word right).number]

end LayerTwo.Abi
