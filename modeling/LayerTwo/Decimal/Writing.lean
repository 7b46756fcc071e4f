/-! Integers in decimal digits. An integer of more digits than the limit is neither read nor written;
what would show it fails instead. -/
namespace LayerTwo.Decimal

/-- The number of digits beyond which no integer is read or written. -/
def maxDigits : Nat := 4300

/-- The integer can be written. -/
def Short (n : Int) : Prop := (Nat.toDigits 10 n.natAbs).length ≤ maxDigits

instance (n : Int) : Decidable (Short n) := inferInstanceAs (Decidable (_ ≤ _))

/-- The text of an integer, unless it has too many digits. -/
def text? (n : Int) : Option String := if Short n then some (toString n) else none

theorem isSome_text?_iff {n : Int} : (text? n).isSome = true ↔ Short n := by
  simp [text?]

/-- That an integer is beyond the limit, with what is known of it. -/
def limitMessage (detail : String) : String :=
  "Exceeds the limit (4300 digits) for integer string conversion" ++ detail ++
    "; use sys.set_int_max_str_digits() to increase the limit"

/-- The message about an integer with too many digits to be read. -/
def unreadMessage (digits : Nat) : String :=
  limitMessage (": value has " ++ toString digits ++ " digits")

/-- The message about an integer with too many digits to be written. -/
def unwrittenMessage : String := limitMessage ""

end LayerTwo.Decimal
