import LayerTwo.Json.Raw
import LayerTwo.Proofs.Json.Reading

/-! JSON texts as they arrive. A JSON text starts with an ASCII character and holds no null
character; that is all it takes to tell the encoding forms apart, whether or not a mark is in front.
So the bytes of a text are read as the text itself is, in every form. -/
namespace LayerTwo.Json

open LayerTwo.Text

/-- The mark of an encoding form is the byte order mark written in it. -/
def mark (encoding : Encoding) : List UInt8 := encoding.encode [byteOrderMark]

/-- The bytes of a text, behind the mark of their encoding form or without it. -/
def bytesOf (encoding : Encoding) (marked : Bool) (text : List Char) : List UInt8 :=
  if marked then mark encoding ++ encoding.encode text else encoding.encode text

/-! No JSON text holds a null character -/

def Solid (text : List Char) : Prop := ∀ c ∈ text, c.toNat ≠ 0

@[simp] theorem solid_nil : Solid [] := List.forall_mem_nil _

@[simp] theorem solid_cons {c : Char} {text : List Char} :
    Solid (c :: text) ↔ c.toNat ≠ 0 ∧ Solid text := List.forall_mem_cons

@[simp] theorem solid_append {first second : List Char} :
    Solid (first ++ second) ↔ Solid first ∧ Solid second := List.forall_mem_append

theorem Blank.solid {text : List Char} (blanks : Blank text) : Solid text := by
  intro c member
  rcases blanks c member with rfl | rfl | rfl | rfl <;> decide

theorem solid_of_isDigit {text : List Char} (all : ∀ c ∈ text, c.isDigit = true) : Solid text := by
  intro c member zero
  have range := Char.isDigit_iff_toNat.mp (all c member)
  rw [zero] at range
  exact absurd range.1 (by decide)

theorem SpellsUnit.solid {digits : List Char} {unit : Nat} (spelled : SpellsUnit digits unit) :
    Solid (unitEscape digits) := by
  refine solid_cons.mpr ⟨by decide, solid_cons.mpr ⟨by decide, ?_⟩⟩
  have valid : digits.all Hex.isDigit = true := by
    rw [← Hex.all_isDigit_map_toLower, spelled, Hex.all_isDigit_fixed]
  intro c member zero
  have digit := List.all_eq_true.mp valid c member
  simp [Hex.isDigit, Hex.digitValue?, zero] at digit

theorem Inside.solid {text : List Char} (inside : Inside text) : Solid text := by
  induction inside with
  | nil => exact solid_nil
  | plain visible _ _ _ ih => exact solid_cons.mpr ⟨by omega, ih⟩
  | @short letter c rest listed _ ih =>
    have all : ∀ entry ∈ shortEscapes, Solid [escapeMark, entry.1] := by
      simp [shortEscapes, escapeMark, quotationMark]
    exact solid_append.mpr ⟨all _ listed, ih⟩
  | unit spelled _ ih => exact solid_append.mpr ⟨spelled.solid, ih⟩

theorem WritesString.solid {s : String} {text : List Char} (written : WritesString Loose s text) :
    Solid text := by
  obtain ⟨inside⟩ := written
  simp only [solid_cons, solid_append, Inside.solid inside, solid_nil]
  decide

theorem WritesNumeral.solid {numeral : Numeral} {text : List Char}
    (written : WritesNumeral numeral text) : Solid text := by
  obtain ⟨signed, pointed, raised⟩ := written
  have marks : ∀ mark : Char, mark = 'e' ∨ mark = 'E' → mark.toNat ≠ 0 := by
    rintro mark (rfl | rfl) <;> decide
  simp only [solid_append]
  refine ⟨?_, solid_of_isDigit isDigit_of_mem_toDigits, ?_, ?_⟩
  · cases signed <;> simp
  · cases pointed with
    | none => exact solid_nil
    | point digital => exact solid_cons.mpr ⟨by decide, solid_of_isDigit digital.all⟩
  · cases raised with
    | none => exact solid_nil
    | plain marked digital => exact solid_cons.mpr ⟨marks _ marked, solid_of_isDigit digital.all⟩
    | plus marked digital | minus marked digital =>
      refine solid_cons.mpr ⟨marks _ marked, solid_cons.mpr ⟨by decide, ?_⟩⟩
      exact solid_of_isDigit digital.all

theorem WritesPadded.solid {value : Value} {text : List Char}
    (written : WritesPadded Loose value text) : Solid text := by
  refine WritesPadded.rec (motive_1 := fun _ text _ => Solid text)
    (motive_2 := fun _ text _ => Solid text) (motive_3 := fun _ text _ => Solid text)
    (motive_4 := fun _ text _ => Solid text)
    ?null ?true ?false ?integer ?real ?string ?emptyArray ?array ?emptyObject ?object ?padded
    ?lastItem ?nextItem ?lastMember ?nextMember written
  case null | true | false => simp
  case integer =>
    intro negative sign n signed
    exact (signed.numeral n).solid
  case real =>
    intro numeral text written _
    exact written.solid
  case string =>
    intro s text written
    exact written.solid
  case emptyArray | emptyObject =>
    intro blank blanks
    simp only [solid_cons, solid_append, blanks.solid, solid_nil]
    decide
  case array | object =>
    intro _ text _ body
    exact solid_cons.mpr ⟨by decide, body⟩
  case padded =>
    intro value before text after leading _ trailing written
    exact solid_append.mpr ⟨leading.solid, solid_append.mpr ⟨written, trailing.solid⟩⟩
  case lastItem =>
    intro item text _ first
    simp only [solid_append, solid_cons, first, solid_nil]
    decide
  case nextItem =>
    intro item items text others _ _ first rest
    simp only [solid_append, solid_cons, first, rest]
    decide
  case lastMember =>
    intro key value before name after text leading named trailing _ first
    simp only [solid_append, solid_cons, solid_nil, leading.solid, named.solid, trailing.solid,
      first]
    decide
  case nextMember =>
    intro key value entries before name after text others leading named trailing _ _ first rest
    simp only [solid_append, solid_cons, leading.solid, named.solid, trailing.solid, first, rest]
    decide

/-- A JSON text starts with a blank or with the first character of a value. -/
theorem WritesPadded.starts {spells : String → List Char → Prop} {value : Value} {text : List Char}
    (written : WritesPadded spells value text) : ∃ c tail, text = c :: tail ∧ c.toNat < 0x80 := by
  obtain @⟨_, before, body, after, leading, writes, _⟩ := written
  cases before with
  | nil =>
    obtain ⟨c, tail, rfl, opens⟩ := writes.opens
    exact ⟨c, tail ++ after, rfl, opens.toNat.2⟩
  | cons c others =>
    refine ⟨c, _, rfl, ?_⟩
    rcases leading c List.mem_cons_self with rfl | rfl | rfl | rfl <;> decide

theorem IsText.solid {text : List Char} (valid : IsText text) : Solid text := by
  obtain ⟨value, written⟩ := valid
  exact written.solid

/-! Which encoding form the bytes are in -/

variable {a b c d : UInt8} {rest : List UInt8}

/-- Bytes that start with an ASCII byte carry a mark only if it is the one that starts with two
zeros. -/
theorem detect_unmarked (ascii : a.toNat < 0x80)
    (unmarked : a = 0 → ∀ tail, rest ≠ 0x00 :: 0xFE :: tail) :
    detect (a :: rest) = (guess (a :: rest), 0, a :: rest) := by
  rw [detect.eq_def]
  split
  · rename_i same
    cases same
    exact absurd rfl (unmarked rfl _)
  all_goals first
    | rfl
    | rename_i same
      cases same
      exact absurd ascii (by decide)

/-- The mark of UTF-16 starts the one of UTF-32, but no zeros follow it. -/
theorem detect_utf16_little {octets : List UInt8} (next : ∀ tail, octets ≠ 0 :: 0 :: tail) :
    detect (0xFF :: 0xFE :: octets) = (.utf16 false, 2, octets) := by
  rw [detect.eq_def]
  -- only the two marks that start with these bytes are left, and the bytes without a mark
  split
  · rename_i same
    cases same
  · rename_i same
    cases same
    exact absurd rfl (next _)
  · rename_i same
    cases same
  · rename_i same
    cases same
    rfl
  · rename_i same
    cases same
  · rename_i unmarked _
    exact absurd rfl (unmarked octets)

theorem guess_utf8 (first : a ≠ 0) (second : b ≠ 0) : guess (a :: b :: rest) = .utf8 := by
  rcases rest with _ | ⟨c, _ | ⟨d, tail⟩⟩ <;> simp [guess, first, second]

/-- Behind two bytes there are no others, or at least two. -/
theorem guess_utf16_big (first : a = 0) (second : b ≠ 0) (pairs : rest.length ≠ 1) :
    guess (a :: b :: rest) = .utf16 true := by
  rcases rest with _ | ⟨c, _ | ⟨d, tail⟩⟩
  · simp [guess, first]
  · exact absurd rfl pairs
  · simp [guess, first, second]

theorem guess_utf16_little (first : a ≠ 0) (second : b = 0) (pairs : rest.length ≠ 1)
    (next : ∀ tail, rest ≠ 0 :: 0 :: tail) : guess (a :: b :: rest) = .utf16 false := by
  rcases rest with _ | ⟨c, _ | ⟨d, tail⟩⟩
  · simp [guess, first, second]
  · exact absurd rfl pairs
  · have other : ¬(c = 0 ∧ d = 0) := by
      rintro ⟨rfl, rfl⟩
      exact next tail rfl
    simp [guess, first, second, other]

/-! What the bytes of a text start with -/

theorem ofNat_ne_zero {n : Nat} (small : n < 256) (positive : n ≠ 0) : UInt8.ofNat n ≠ 0 := by
  intro zero
  have number := toNat_ofNat_of_lt small
  rw [zero] at number
  exact positive number.symm

theorem utf8_starts {c : Char} (solid : c.toNat ≠ 0) :
    ∃ b tail, Encoding.utf8.encodeChar c = b :: tail ∧ b ≠ 0 := by
  have valid := toNat_valid c
  have whole : c.val.toNat = c.toNat := rfl
  rw [Encoding.encodeChar, String.utf8EncodeChar, whole]
  generalize c.toNat = code at valid solid ⊢
  split_ifs
  all_goals exact ⟨_, _, rfl, ofNat_ne_zero (by omega) (by omega)⟩

/-- The first unit of a character that is not the null character is not zero. -/
theorem units_starts {c : Char} (solid : c.toNat ≠ 0) :
    ∃ unit others, units c = unit :: others ∧ unit ≠ 0 ∧ unit < 65536 := by
  rcases units_cases c with ⟨alone, small, _⟩ | ⟨high, low, pair, isHigh, _⟩
  · exact ⟨c.toNat, [], alone, solid, small⟩
  · have range := isHighSurrogate_iff.mp isHigh
    exact ⟨high, [low], pair, by omega, by omega⟩

/-- An ASCII character is one byte in UTF-8; the longer forms fill it up with zeros. -/
theorem encodeChar_ascii {c : Char} (ascii : c.toNat < 0x80) :
    Encoding.utf8.encodeChar c = [UInt8.ofNat c.toNat] ∧
    Encoding.encodeChar (.utf16 true) c = [0, UInt8.ofNat c.toNat] ∧
    Encoding.encodeChar (.utf16 false) c = [UInt8.ofNat c.toNat, 0] ∧
    Encoding.encodeChar (.utf32 true) c = [0, 0, 0, UInt8.ofNat c.toNat] ∧
    Encoding.encodeChar (.utf32 false) c = [UInt8.ofNat c.toNat, 0, 0, 0] := by
  have whole : c.val.toNat = c.toNat := rfl
  have quotient : c.toNat / 256 = 0 := by omega
  have remainder : c.toNat % 256 = c.toNat := by omega
  have quotient' : c.toNat / 65536 = 0 := by omega
  have remainder' : c.toNat % 65536 = c.toNat := by omega
  simp [Encoding.encodeChar, String.utf8EncodeChar, whole, units, bytes16, bytes32, quotient,
    remainder, quotient', remainder', show c.toNat ≤ 127 by omega, show c.toNat < 65536 by omega]

/-- In UTF-16 a text is a whole number of units, of which none is zero. -/
theorem utf16_others (bigEndian : Bool) {text : List Char} (solid : Solid text) :
    (Encoding.encode (.utf16 bigEndian) text).length ≠ 1 ∧
      ∀ tail, Encoding.encode (.utf16 bigEndian) text ≠ 0 :: 0 :: tail := by
  cases text with
  | nil => exact ⟨by simp [Encoding.encode], by simp [Encoding.encode]⟩
  | cons c others =>
    obtain ⟨unit, more, written, positive, small⟩ := units_starts (solid_cons.mp solid).1
    obtain ⟨x, y, bytes, read⟩ := unit16_bytes16 bigEndian small
    have starts : ∃ tail, Encoding.encode (.utf16 bigEndian) (c :: others) = x :: y :: tail := by
      refine ⟨more.flatMap (bytes16 bigEndian) ++ Encoding.encode (.utf16 bigEndian) others, ?_⟩
      simp only [Encoding.encode, List.flatMap_cons, Encoding.encodeChar, written, bytes,
        List.cons_append, List.nil_append]
    obtain ⟨tail, starts⟩ := starts
    rw [starts]
    refine ⟨by simp, ?_⟩
    rintro _ ⟨⟩
    apply positive
    rw [← read]
    cases bigEndian <;> rfl

variable {first : Char} {others : List Char}

/-- Without a mark the form is guessed right. -/
theorem detect_encode (encoding : Encoding) (ascii : first.toNat < 0x80)
    (solid : Solid (first :: others)) :
    detect (encoding.encode (first :: others)) =
      (encoding, 0, encoding.encode (first :: others)) := by
  obtain ⟨positive, solid⟩ := solid_cons.mp solid
  obtain ⟨utf8, big16, little16, big32, little32⟩ := encodeChar_ascii ascii
  have lead := ofNat_ne_zero (show first.toNat < 256 by omega) positive
  have low : (UInt8.ofNat first.toNat).toNat < 0x80 := by
    rw [toNat_ofNat_of_lt (by omega)]
    exact ascii
  generalize UInt8.ofNat first.toNat = a at lead low utf8 big16 little16 big32 little32
  cases encoding with
  | utf8 =>
    rw [Encoding.encode, List.flatMap_cons, utf8, List.singleton_append,
      detect_unmarked low fun zero => absurd zero lead]
    cases others with
    | nil => rfl
    | cons next more =>
      obtain ⟨b, tail, starts, nonzero⟩ := utf8_starts (solid_cons.mp solid).1
      rw [List.flatMap_cons, starts, List.cons_append, guess_utf8 lead nonzero]
  | utf16 bigEndian =>
    obtain ⟨pairs, next⟩ := utf16_others bigEndian solid
    cases bigEndian with
    | true =>
      have unmarked : ∀ tail, a :: Encoding.encode (.utf16 true) others ≠ 0x00 :: 0xFE :: tail := by
        intro tail same
        exact lead (List.cons.inj same).1
      rw [Encoding.encode, List.flatMap_cons, big16, ← Encoding.encode, List.cons_append,
        List.singleton_append, detect_unmarked (by decide) fun _ => unmarked,
        guess_utf16_big rfl lead pairs]
    | false =>
      rw [Encoding.encode, List.flatMap_cons, little16, ← Encoding.encode, List.cons_append,
        List.singleton_append, detect_unmarked low fun zero => absurd zero lead,
        guess_utf16_little lead rfl pairs next]
  | utf32 bigEndian =>
    cases bigEndian with
    | true =>
      rw [Encoding.encode, List.flatMap_cons, big32]
      exact detect_unmarked (by decide) (by rintro _ _ ⟨⟩)
    | false =>
      rw [Encoding.encode, List.flatMap_cons, little32, List.cons_append,
        detect_unmarked low fun zero => absurd zero lead]
      simp [guess, lead]

/-- A mark names its form. -/
theorem detect_marked (encoding : Encoding) (solid : Solid (first :: others)) :
    ∃ position, detect (mark encoding ++ encoding.encode (first :: others)) =
      (encoding, position, encoding.encode (first :: others)) := by
  cases encoding with
  | utf8 => exact ⟨0, rfl⟩
  | utf16 bigEndian =>
    cases bigEndian with
    | true => exact ⟨2, rfl⟩
    | false => exact ⟨2, detect_utf16_little (utf16_others false solid).2⟩
  | utf32 bigEndian => cases bigEndian <;> exact ⟨4, rfl⟩

/-- The bytes of a JSON text hold that text, in every form. -/
theorem textOfBytes_bytesOf {text : List Char} (valid : IsText text) (encoding : Encoding)
    (marked : Bool) : textOfBytes (bytesOf encoding marked text) = .ok text := by
  have solid := valid.solid
  obtain ⟨value, written⟩ := valid
  obtain ⟨first, others, rfl, ascii⟩ := written.starts
  cases marked with
  | true =>
    obtain ⟨position, detected⟩ := detect_marked encoding solid
    simp only [textOfBytes, bytesOf, if_true, detected, decode_encode]
  | false =>
    simp only [textOfBytes, bytesOf, Bool.false_eq_true, if_false,
      detect_encode encoding ascii solid, decode_encode]

/-! Raw payloads -/

theorem readRaw_text {spells : String → List Char → Prop} {value : Value} {text : List Char}
    (written : WritesPadded spells value text) :
    readRaw (.str (String.ofList text)) = decode text := by
  obtain ⟨first, others, rfl, ascii⟩ := written.starts
  have unmarked : first ≠ byteOrderMark := by
    rintro rfl
    exact absurd ascii (by decide)
  simp only [readRaw, String.toList_ofList, unmarked, if_false]

/-- The bytes of a JSON text are read as the text is. -/
theorem readRaw_bytes {text : List Char} (valid : IsText text) (encoding : Encoding)
    (marked : Bool) :
    readRaw (.bytes (bytesOf encoding marked text)) = readRaw (.str (String.ofList text)) := by
  have held := textOfBytes_bytesOf valid encoding marked
  obtain ⟨value, written⟩ := valid
  rw [readRaw_text written]
  simp only [readRaw, held]

end LayerTwo.Json
