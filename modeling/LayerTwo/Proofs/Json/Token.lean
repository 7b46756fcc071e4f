import LayerTwo.Proofs.Hex.Spelling
import LayerTwo.Proofs.Json.Grammar

/-! Strings and numbers are read as they were written. The readers take the text that is left and
give it back, so each statement is about a text with more text behind it. A character is read as
pieces that join to it again; what is behind a number must not continue it. -/
namespace LayerTwo.Json

open LayerTwo.Text LayerTwo.Decimal

variable {rest : List Char}

/-! Blanks -/

theorem isSpace_iff {c : Char} : isSpace c = true ↔ c = ' ' ∨ c = '\t' ∨ c = '\n' ∨ c = '\r' := by
  simp only [isSpace, Bool.or_eq_true, beq_iff_eq, or_assoc]

theorem skip_append {blank : List Char} (blanks : Blank blank) (rest : List Char) :
    skip (blank ++ rest) = skip rest :=
  List.dropWhile_append_of_pos fun c member => isSpace_iff.mpr (blanks c member)

theorem skip_cons {c : Char} (solid : isSpace c = false) (rest : List Char) :
    skip (c :: rest) = c :: rest :=
  List.dropWhile_cons_of_neg (by rw [solid]; decide)

/-! Strings -/

theorem unit?_of_spells {digits : List Char} {unit : Nat} (spelled : SpellsUnit digits unit)
    (small : unit < 0x10000) :
    ∃ a b c d, digits = [a, b, c, d] ∧ unit? a b c d = some unit := by
  have length : digits.length = 4 := by
    rw [← List.length_map (f := Char.toLower), spelled, Hex.length_fixed]
  have valid : digits.all Hex.isDigit = true := by
    rw [← Hex.all_isDigit_map_toLower, spelled, Hex.all_isDigit_fixed]
  have number : Hex.value digits = unit := by
    rw [← Hex.value_map_toLower, spelled, Hex.value_fixed small]
  obtain ⟨a, b, c, d, rfl⟩ := List.length_eq_four.mp length
  exact ⟨a, b, c, d, rfl, by rw [unit?, if_pos valid, number]⟩

/-- A reading of pieces with more pieces in front. -/
def Reading.after (pieces : List Piece) (reading : Reading (List Piece)) : Reading (List Piece) :=
  reading.map fun (others, rest) => (pieces ++ others, rest)

variable {start : List Char}

/-- The escape of a unit is read as the unit; the quotation mark at the end is never far. -/
theorem readPieces_unitEscape {digits : List Char} {unit : Nat} (spelled : SpellsUnit digits unit)
    (small : unit < 0x10000) (more : rest ≠ []) :
    readPieces start (unitEscape digits ++ rest) = (readPieces start rest).after [.unit unit] := by
  obtain ⟨a, b, c, d, rfl, read⟩ := unit?_of_spells spelled small
  have others : rest.isEmpty = false := List.isEmpty_eq_false_iff.mpr more
  change readPieces start (escapeMark :: 'u' :: a :: b :: c :: d :: rest) = _
  rw [readPieces.eq_def]
  simp only [show ¬escapeMark = quotationMark by decide, others, read, if_true, if_false,
    Bool.false_eq_true]
  rfl

theorem readPieces_short {letter c : Char} (listed : (letter, c) ∈ shortEscapes) :
    readPieces start (escapeMark :: letter :: rest) = (readPieces start rest).after [.char c] := by
  have known : letter ≠ 'u' ∧ simpleEscape? letter = some c := by
    have all : ∀ entry ∈ shortEscapes, entry.1 ≠ 'u' ∧ simpleEscape? entry.1 = some entry.2 := by
      decide
    exact all _ listed
  rw [readPieces.eq_def]
  simp only [show ¬escapeMark = quotationMark by decide, if_true, if_false]
  split
  · contradiction
  · rename_i same
    cases same
    exact absurd rfl known.1
  · rename_i same
    cases same
    simp only [known.1, if_false, known.2]
    rfl

theorem readPieces_plain {c : Char} (visible : 0x20 ≤ c.toNat) (noQuote : c ≠ quotationMark)
    (noEscape : c ≠ escapeMark) :
    readPieces start (c :: rest) = (readPieces start rest).after [.char c] := by
  rw [readPieces.eq_def]
  simp only [noQuote, noEscape, show ¬c.toNat ≤ 0x1F by omega, if_false]
  rfl

theorem joinPieces_unit {unit : Nat} (single : isHighSurrogate unit = false) (others : List Piece) :
    joinPieces (.unit unit :: others) = charOfCode unit :: joinPieces others := by
  rw [joinPieces.eq_def]
  split
  · contradiction
  · rename_i same
    cases same
    simp only [single, Bool.false_and, Bool.false_eq_true, if_false]
  · rename_i same
    cases same
    rfl
  · rename_i same
    cases same

/-- A character is read as pieces that join to it, whatever pieces come after them. -/
theorem WritesChar.read {c : Char} {text : List Char} (written : WritesChar c text) :
    ∃ pieces, (∀ start rest, rest ≠ [] →
        readPieces start (text ++ rest) = (readPieces start rest).after pieces) ∧
      ∀ others, joinPieces (pieces ++ others) = c :: joinPieces others := by
  cases written with
  | plain visible noQuote noEscape =>
    exact ⟨[.char c], fun _ _ _ => readPieces_plain visible noQuote noEscape, fun _ => rfl⟩
  | short listed => exact ⟨[.char c], fun _ _ _ => readPieces_short listed, fun _ => rfl⟩
  | @unit _ unit digits alone spelled =>
    rcases units_cases c with ⟨itself, small, single⟩ | ⟨high, low, pair, _⟩
    · obtain rfl : unit = c.toNat := by
        rw [alone] at itself
        exact List.head_eq_of_cons_eq itself
      refine ⟨[.unit c.toNat], ?_, ?_⟩
      · intro start rest more
        exact readPieces_unitEscape spelled small more
      · intro others
        rw [List.singleton_append, joinPieces_unit single, charOfCode_toNat]
    · rw [alone] at pair
      cases pair
  | @pair _ high low first second both highSpelled lowSpelled =>
    rcases units_cases c with ⟨itself, _⟩ | ⟨top, bottom, pair, isHigh, isLow, joined⟩
    · rw [both] at itself
      cases itself
    · rw [both] at pair
      cases pair
      have highSmall : high < 0x10000 := (isHighSurrogate_iff.mp isHigh).2.trans (by decide)
      have lowSmall : low < 0x10000 := (isLowSurrogate_iff.mp isLow).2.trans (by decide)
      refine ⟨[.unit high, .unit low], ?_, ?_⟩
      · intro start rest more
        rw [List.append_assoc, readPieces_unitEscape highSpelled highSmall (by simp [unitEscape]),
          readPieces_unitEscape lowSpelled lowSmall more]
        cases readPieces start rest <;> rfl
      · intro others
        simp only [List.cons_append, List.nil_append, joinPieces, isHigh, isLow, Bool.and_self,
          if_true, joined, charOfCode_toNat]

theorem WritesChars.read {chars text : List Char} (written : WritesChars chars text) :
    ∃ pieces, (∀ start rest, readPieces start (text ++ quotationMark :: rest) =
        .ok (pieces, rest)) ∧ joinPieces pieces = chars := by
  induction written with
  | nil => exact ⟨[], fun start rest => by rw [List.nil_append, readPieces.eq_def]; rfl, rfl⟩
  | cons first _ ih =>
    obtain ⟨here, readHere, joinedHere⟩ := first.read
    obtain ⟨others, readOthers, joinedOthers⟩ := ih
    refine ⟨here ++ others, ?_, ?_⟩
    · intro start rest
      rw [List.append_assoc, readHere _ _ (by simp), readOthers]
      rfl
    · rw [joinedHere, joinedOthers]

/-- A string is read after its opening quotation mark. -/
theorem WritesString.read {s : String} {text : List Char} (written : WritesString Exact s text) :
    ∃ inner, text = quotationMark :: inner ∧
      ∀ rest, readString (inner ++ rest) = .ok (s, rest) := by
  obtain ⟨inside⟩ := written
  obtain ⟨pieces, read, joined⟩ := inside.read
  refine ⟨_, rfl, ?_⟩
  intro rest
  rw [List.append_assoc, readString, List.singleton_append, read]
  simp only [Except.map, joined, String.ofList_toList]

/-! Numbers -/

/-- The text does not start with a digit. -/
def NoDigit (rest : List Char) : Prop := ∀ c tail, rest = c :: tail → c.isDigit = false

/-- The text does not continue a number. -/
def Ends (rest : List Char) : Prop :=
  ∀ c tail, rest = c :: tail → c.isDigit = false ∧ c ≠ '.' ∧ c ≠ 'e' ∧ c ≠ 'E'

theorem Ends.noDigit (ends : Ends rest) : NoDigit rest := fun c tail same => (ends c tail same).1

theorem takeWhile_digits {digits : List Char} (all : ∀ c ∈ digits, c.isDigit = true)
    (stops : NoDigit rest) :
    (digits ++ rest).takeWhile Char.isDigit = digits ∧
      (digits ++ rest).dropWhile Char.isDigit = rest := by
  rw [List.takeWhile_append_of_pos all, List.dropWhile_append_of_pos all]
  cases rest with
  | nil => exact ⟨List.append_nil digits, rfl⟩
  | cons c tail => simp [stops c tail rfl]

theorem isDigit_of_mem_toDigits {n : Nat} : ∀ c ∈ Nat.toDigits 10 n, c.isDigit = true :=
  fun _ member => Nat.isDigit_of_mem_toDigits (by decide) (by decide) member

theorem ofDigits_toDigits (n : Nat) : ofDigits (Nat.toDigits 10 n) = n :=
  Nat.ofDigitChars_eq_foldl.symm.trans Nat.ofDigitChars_ten_toDigits

/-- Only zero is written with a zero in front. -/
theorem toDigits_leading {n : Nat} (positive : 0 < n) :
    ∃ first others, Nat.toDigits 10 n = first :: others ∧ first ≠ '0' := by
  induction n using Nat.strongRecOn with
  | ind n ih =>
    by_cases small : n < 10
    · refine ⟨n.digitChar, [], Nat.toDigits_of_lt_base small, ?_⟩
      rw [Ne, Nat.digitChar_eq_zero]
      omega
    · obtain ⟨first, others, written, nonzero⟩ := ih (n / 10) (by omega) (by omega)
      refine ⟨first, others ++ [(n % 10).digitChar], ?_, nonzero⟩
      rw [Nat.toDigits_of_base_le (by decide) (by omega), written, List.cons_append]

theorem takeWhole_toDigits (n : Nat) (stops : NoDigit rest) :
    takeWhole (Nat.toDigits 10 n ++ rest) = (Nat.toDigits 10 n, rest) := by
  rcases Nat.eq_zero_or_pos n with rfl | positive
  · rfl
  · obtain ⟨first, others, written, nonzero⟩ := toDigits_leading positive
    obtain ⟨taken, dropped⟩ := takeWhile_digits (isDigit_of_mem_toDigits (n := n)) stops
    rw [written, List.cons_append] at taken dropped ⊢
    rw [takeWhole.eq_def]
    split
    · rename_i same
      cases same
      exact absurd rfl nonzero
    · rw [taken, dropped]

theorem WritesFraction.read {fraction point : List Char} (written : WritesFraction fraction point)
    (stops : ∀ c tail, rest = c :: tail → c.isDigit = false ∧ c ≠ '.') :
    takeFraction (point ++ rest) = (fraction, rest) := by
  cases written with
  | none =>
    rw [List.nil_append, takeFraction.eq_def]
    split
    · exact absurd rfl (stops _ _ rfl).2
    · rfl
  | point digital =>
    obtain ⟨taken, dropped⟩ := takeWhile_digits digital.all fun c tail same => (stops c tail same).1
    have given : fraction.isEmpty = false := List.isEmpty_eq_false_iff.mpr digital.nonempty
    simp only [List.cons_append, takeFraction, taken, dropped, given, Bool.false_eq_true, if_false]

theorem takeSign_digits {digits : List Char} (digital : Digits digits) :
    takeSign (digits ++ rest) = (false, digits ++ rest) := by
  obtain ⟨nonempty, all⟩ := digital
  cases digits with
  | nil => exact absurd rfl nonempty
  | cons first others =>
    have digit := all first List.mem_cons_self
    rw [List.cons_append, takeSign.eq_def]
    split
    · rename_i same
      cases same
      contradiction
    · rename_i same
      cases same
      contradiction
    · rfl

theorem WritesExponent.read {exponent : Option (Bool × List Char)} {power : List Char}
    (written : WritesExponent exponent power) (ends : Ends rest) :
    takeExponent (power ++ rest) = (exponent, rest) := by
  -- all three signs end in the same digits
  have digits : ∀ {mark negative digits places}, (mark = 'e' ∨ mark = 'E') → Digits digits →
      takeSign places = (negative, digits ++ rest) →
      takeExponent (mark :: places) = (some (negative, digits), rest) := by
    intro mark negative digits places marked digital signed
    obtain ⟨taken, dropped⟩ := takeWhile_digits digital.all ends.noDigit
    have given : digits.isEmpty = false := List.isEmpty_eq_false_iff.mpr digital.nonempty
    simp only [takeExponent, signed, taken, dropped, marked, given, Bool.not_false, and_self,
      if_true]
  cases written with
  | none =>
    cases rest with
    | nil => rfl
    | cons c tail =>
      obtain ⟨_, _, notSmall, notCapital⟩ := ends c tail rfl
      simp only [List.nil_append, takeExponent, notSmall, notCapital, or_self, false_and, if_false]
  | plain marked digital => exact digits marked digital (takeSign_digits digital)
  | plus marked digital => exact digits marked digital rfl
  | minus marked digital => exact digits marked digital rfl

/-- What may stand behind the whole part, or behind the fraction, of a number. -/
theorem WritesExponent.stops {exponent : Option (Bool × List Char)} {power : List Char}
    (written : WritesExponent exponent power) (ends : Ends rest) :
    ∀ c tail, power ++ rest = c :: tail → c.isDigit = false ∧ c ≠ '.' := by
  have marks : ∀ mark : Char, mark = 'e' ∨ mark = 'E' → mark.isDigit = false ∧ mark ≠ '.' := by
    rintro mark (rfl | rfl) <;> decide
  intro c tail same
  cases written with
  | none => exact ⟨(ends c tail same).1, (ends c tail same).2.1⟩
  | plain marked | plus marked | minus marked =>
    cases same
    exact marks c marked

/-- A numeral starts with a minus sign only if it is signed. -/
theorem toDigits_append_ne_minus (n : Nat) (others tail : List Char) :
    Nat.toDigits 10 n ++ others ≠ '-' :: tail := by
  intro same
  cases written : Nat.toDigits 10 n with
  | nil => exact Nat.toDigits_ne_nil written
  | cons first digits =>
    rw [written] at same
    cases same
    have digit := isDigit_of_mem_toDigits '-' (written ▸ List.mem_cons_self)
    contradiction

theorem WritesNumeral.read {numeral : Numeral} {text : List Char}
    (written : WritesNumeral numeral text) (ends : Ends rest) :
    numeral? (text ++ rest) = some (numeral, rest) := by
  obtain @⟨_, whole, _, _, point, power, _, signed, pointed, raised⟩ := written
  have behind : NoDigit (point ++ (power ++ rest)) := by
    intro c tail same
    cases pointed with
    | none => exact (raised.stops ends c tail same).1
    | point =>
      cases same
      rfl
  have given : (Nat.toDigits 10 whole).isEmpty = false :=
    List.isEmpty_eq_false_iff.mpr Nat.toDigits_ne_nil
  have wholeRead := takeWhole_toDigits whole behind
  have fractionRead := pointed.read (raised.stops ends)
  have exponentRead := raised.read ends
  cases signed with
  | minus =>
    simp only [List.cons_append, List.nil_append, List.append_assoc, numeral?, wholeRead, given,
      fractionRead, exponentRead, Bool.false_eq_true, if_false]
  | none =>
    simp only [List.nil_append, List.append_assoc, numeral?]
    split
    · rename_i tail same
      exact absurd same (toDigits_append_ne_minus whole _ tail)
    · simp only [wholeRead, given, fractionRead, exponentRead, Bool.false_eq_true, if_false]

theorem Numeral.value_of_broken {numeral : Numeral}
    (broken : numeral.fraction ≠ [] ∨ numeral.exponent ≠ none) :
    numeral.value = .ok (.float numeral.double) := by
  obtain ⟨negative, whole, fraction, exponent⟩ := numeral
  rcases fraction with _ | ⟨first, others⟩
  · rcases exponent with _ | power
    · simp at broken
    · rfl
  · rfl

end LayerTwo.Json
