import LayerTwo.Proofs.Abi.Word

/-! The reader of call data. A word stands at the place of each argument; the word of a byte string
is the offset of its length, which the bytes and their filling follow. Everything that is read has
to be there, and all padding has to be zero. What is encoded reads back, as long as the whole of it
is short enough for its offsets to fit a word. -/
namespace LayerTwo.Abi

/-- The given number of bytes from an offset on, if they are all there. -/
def span? (body : List UInt8) (offset width : Nat) : Option (List UInt8) :=
  if offset + width ≤ body.length then some ((body.drop offset).take width) else none

/-- The number in the word at an offset. -/
def wordAt? (body : List UInt8) (offset : Nat) : Option Nat := (span? body offset 32).map numberOf

/-- The account in a word that starts with twelve zeros. -/
def accountOf? (word : List UInt8) : Option Argument :=
  if word.take 12 = List.replicate 12 0 then some (.account (word.drop 12)) else none

/-- The byte string whose length stands at an offset. Zeros bring it to a whole number of words. -/
def dataAt? (body : List UInt8) (start : Nat) : Option Argument := do
  let length ← wordAt? body start
  let octets ← span? body (start + 32) length
  let padding ← span? body (start + 32 + length) ((length + 31) / 32 * 32 - length)
  if padding.all (· = 0) then some (.data octets) else none

/-- The argument of a type whose word is at an offset. -/
def AbiType.read? (body : List UInt8) (offset : Nat) : AbiType → Option Argument
  | .uint256 => (wordAt? body offset).map .number
  | .bool => (wordAt? body offset).bind fun n => if n < 2 then some (.number n) else none
  | .address => (span? body offset 32).bind accountOf?
  | .bytes => (wordAt? body offset).bind (dataAt? body)

/-- The arguments of the given types, the word of the first one being at an offset. -/
def readArguments? (body : List UInt8) : (offset : Nat) → List AbiType → Option (List Argument)
  | _, [] => some []
  | offset, type :: types => do
    let argument ← type.read? body offset
    let arguments ← readArguments? body (offset + 32) types
    return argument :: arguments

/-- The arguments that a body of call data holds. -/
def decodeArguments? (types : List AbiType) (body : List UInt8) : Option (List Argument) :=
  readArguments? body 0 types

/-! Pieces of a body -/

/-- The piece stands in the body at the offset. -/
def Stands (body : List UInt8) (offset : Nat) (piece : List UInt8) : Prop :=
  ∃ before after, body = before ++ piece ++ after ∧ before.length = offset

variable {body piece left right : List UInt8} {offset : Nat}

theorem Stands.bound (stands : Stands body offset piece) : offset + piece.length ≤ body.length := by
  obtain ⟨before, after, rfl, rfl⟩ := stands
  simp only [List.length_append]
  omega

theorem Stands.first (stands : Stands body offset (left ++ right)) : Stands body offset left := by
  obtain ⟨before, after, rfl, start⟩ := stands
  exact ⟨before, right ++ after, by simp only [List.append_assoc], start⟩

theorem Stands.second (stands : Stands body offset (left ++ right)) :
    Stands body (offset + left.length) right := by
  obtain ⟨before, after, rfl, rfl⟩ := stands
  exact ⟨before ++ left, after, by simp only [List.append_assoc], List.length_append⟩

theorem Stands.span? (stands : Stands body offset piece) {width : Nat}
    (exact : piece.length = width) : span? body offset width = some piece := by
  have bound := stands.bound
  obtain ⟨before, after, rfl, rfl⟩ := stands
  subst exact
  rw [Abi.span?, if_pos bound, List.append_assoc, List.drop_left, List.take_left]

theorem Stands.wordAt? {n : Nat} (stands : Stands body offset (word n)) (fits : n < wordLimit) :
    wordAt? body offset = some n := by
  rw [Abi.wordAt?, stands.span? (length_word n), Option.map_some, (isWord_word fits).number]

theorem accountOf?_padded (octets : List UInt8) :
    accountOf? (List.replicate 12 0 ++ octets) = some (.account octets) := by
  rw [accountOf?, List.take_left' List.length_replicate, List.drop_left' List.length_replicate,
    if_pos rfl]

theorem length_filling (octets : List UInt8) :
    (filling octets).length = (octets.length + 31) / 32 * 32 - octets.length := by
  rw [filling, List.length_replicate]
  omega

theorem all_filling (octets : List UInt8) : (filling octets).all (· = 0) = true := by
  simp only [filling, List.all_replicate, decide_true, ite_self]

/-- A byte string with its length in front and its filling behind is read where it stands. -/
theorem Stands.dataAt? {octets : List UInt8}
    (stands : Stands body offset (word octets.length ++ octets ++ filling octets))
    (fits : octets.length < wordLimit) : dataAt? body offset = some (.data octets) := by
  have length := stands.first.first.wordAt? fits
  have octetsRead := stands.first.second.span? rfl
  have padding := stands.second.span? (length_filling octets)
  rw [length_word] at octetsRead
  rw [List.length_append, length_word, ← Nat.add_assoc] at padding
  simp only [Abi.dataAt?, length, octetsRead, padding, all_filling, Option.bind_eq_bind,
    Option.bind_some, if_true]

/-! Reading back -/

/-- The argument is one of the type. -/
inductive Argument.Of : AbiType → Argument → Prop where
  | number {n : Nat} (fits : n < wordLimit) : Of .uint256 (.number n)
  | truth {n : Nat} (bit : n < 2) : Of .bool (.number n)
  | account {octets : List UInt8} (length : octets.length = 20) : Of .address (.account octets)
  | data (octets : List UInt8) : Of .bytes (.data octets)

theorem Argument.Of.length_head {type : AbiType} {argument : Argument} (typed : argument.Of type)
    (offset : Nat) : (argument.head offset).length = 32 := by
  cases typed with
  | number | truth => exact length_word _
  | account length => simp only [head, List.length_append, List.length_replicate, length]
  | data => exact length_word _

/-- An argument is read from its word, and from its tail if it has one. -/
theorem Argument.Of.read? {type : AbiType} {argument : Argument} (typed : argument.Of type)
    {start : Nat} (head : Stands body offset (argument.head start))
    (tail : Stands body start argument.tail) (short : body.length < wordLimit) :
    type.read? body offset = some argument := by
  cases typed with
  | number fits => rw [AbiType.read?, Stands.wordAt? head fits, Option.map_some]
  | truth bit =>
    have fits : _ < wordLimit := bit.trans (by decide)
    rw [AbiType.read?, Stands.wordAt? head fits, Option.bind_some, if_pos bit]
  | @account octets length =>
    have word : (List.replicate 12 (0 : UInt8) ++ octets).length = 32 := by
      simp only [List.length_append, List.length_replicate, length]
    rw [AbiType.read?, Stands.span? head word, Option.bind_some]
    exact accountOf?_padded octets
  | data octets =>
    -- the offset and the length are both within the body, which is shorter than the word limit
    have bound := tail.bound
    simp only [Argument.tail, List.length_append, length_word] at bound
    rw [AbiType.read?, Stands.wordAt? head (by omega), Option.bind_some]
    exact Stands.dataAt? tail (by omega)

/-- The words and the tails advance together: the words by 32 bytes for each argument, the tails by
as much as the argument takes there. -/
theorem readArguments?_of_stands {types : List AbiType} {arguments : List Argument}
    (typed : List.Forall₂ (fun type argument => argument.Of type) types arguments)
    (short : body.length < wordLimit) {offset start : Nat}
    (words : Stands body offset (heads start arguments))
    (tails : Stands body start (arguments.flatMap (·.tail))) :
    readArguments? body offset types = some arguments := by
  induction typed generalizing offset start with
  | nil => rfl
  | @cons type argument types arguments first _ ih =>
    rw [heads] at words
    rw [List.flatMap_cons] at tails
    have here := first.read? words.first tails.first short
    have next := words.second
    rw [first.length_head] at next
    have others := ih next tails.second
    simp only [readArguments?, here, others, Option.bind_eq_bind, Option.bind_some]
    rfl

theorem length_heads {types : List AbiType} {arguments : List Argument}
    (typed : List.Forall₂ (fun type argument => argument.Of type) types arguments) (start : Nat) :
    (heads start arguments).length = 32 * arguments.length := by
  induction typed generalizing start with
  | nil => rfl
  | cons first _ ih =>
    rw [heads, List.length_append, first.length_head, ih, List.length_cons]
    omega

/-- What is encoded reads back. -/
theorem decodeArguments?_encodeArguments {types : List AbiType} {arguments : List Argument}
    (typed : List.Forall₂ (fun type argument => argument.Of type) types arguments)
    (short : (encodeArguments arguments).length < wordLimit) :
    decodeArguments? types (encodeArguments arguments) = some arguments := by
  have whole : Stands (encodeArguments arguments) 0
      (heads (32 * arguments.length) arguments ++ arguments.flatMap (·.tail)) :=
    ⟨[], [], by simp only [encodeArguments, List.nil_append, List.append_nil], rfl⟩
  have tails := whole.second
  rw [length_heads typed, Nat.zero_add] at tails
  exact readArguments?_of_stands typed short whole.first tails

end LayerTwo.Abi
