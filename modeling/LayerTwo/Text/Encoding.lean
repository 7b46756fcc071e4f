import LayerTwo.Hex.Digit

/-! Texts in the Unicode encoding forms. A decoder stops at the first bytes that encode nothing and
says where they are and what is wrong with them. A surrogate that stands alone is let through as
the replacement character. -/
namespace LayerTwo.Text

inductive Encoding where
  | utf8
  | utf16 (bigEndian : Bool)
  | utf32 (bigEndian : Bool)
deriving DecidableEq

def Encoding.name : Encoding → String
  | .utf8 => "utf-8"
  | .utf16 bigEndian => if bigEndian then "utf-16-be" else "utf-16-le"
  | .utf32 bigEndian => if bigEndian then "utf-32-be" else "utf-32-le"

inductive DecodeReason where
  | startByte | continuation | ended | truncated | outOfRange
deriving DecidableEq

def DecodeReason.message : DecodeReason → String
  | .startByte => "invalid start byte"
  | .continuation => "invalid continuation byte"
  | .ended => "unexpected end of data"
  | .truncated => "truncated data"
  | .outOfRange => "code point not in range(0x110000)"

/-- The bytes that encode nothing, and the place of the first of them. -/
structure DecodeFault where
  encoding : Encoding
  position : Nat
  bytes : List UInt8
  reason : DecodeReason

def DecodeFault.message (fault : DecodeFault) : String :=
  let place := match fault.bytes with
    | [byte] =>
      "byte 0x" ++ String.ofList (Hex.ofByte byte) ++ " in position " ++ toString fault.position
    | bytes => "bytes in position " ++ toString fault.position ++ "-" ++
        toString (fault.position + bytes.length - 1)
  "'" ++ fault.encoding.name ++ "' codec can't decode " ++ place ++ ": " ++ fault.reason.message

def replacement : Char := '\uFFFD'

/-- The character of a code point, the replacement character for a surrogate. -/
def charOfCode (code : Nat) : Char :=
  if h : code.isValidChar then Char.ofNatAux code h else replacement

def isContinuation (byte : UInt8) : Bool := 0x80 ≤ byte && byte < 0xC0

/-- Whether the byte can follow the first one of a sequence of three; a surrogate is let through. -/
def followsThree (first second : UInt8) : Bool :=
  isContinuation second && !(first == 0xE0 && second < 0xA0)

/-- Whether the byte can follow the first byte of a sequence of four. -/
def followsFour (first second : UInt8) : Bool :=
  isContinuation second && !(first == 0xF0 && second < 0x90) && !(first == 0xF4 && 0x90 ≤ second)

/-- Six more bits of a code point. -/
def extend (code : Nat) (byte : UInt8) : Nat := 64 * code + byte.toNat % 64

/-- Reads from the given position on. -/
def decodeUtf8 (position : Nat) : List UInt8 → Except DecodeFault (List Char)
  | [] => .ok []
  | a :: rest =>
    let fault (bytes : List UInt8) (reason : DecodeReason) :=
      Except.error (DecodeFault.mk .utf8 position bytes reason)
    if a < 0x80 then (decodeUtf8 (position + 1) rest).map (Char.ofNat a.toNat :: ·)
    else if a < 0xC2 then fault [a] .startByte
    else if a < 0xE0 then
      match rest with
      | [] => fault [a] .ended
      | b :: rest =>
        if isContinuation b then
          (decodeUtf8 (position + 2) rest).map (charOfCode (extend (a.toNat % 32) b) :: ·)
        else fault [a] .continuation
    else if a < 0xF0 then
      match rest with
      | [] => fault [a] .ended
      | [b] =>
        if followsThree a b && !(a == 0xED && 0xA0 ≤ b) then fault [a, b] .ended
        else fault [a] .continuation
      | b :: c :: rest =>
        if !followsThree a b then fault [a] .continuation
        else if isContinuation c then
          let code := extend (extend (a.toNat % 16) b) c
          (decodeUtf8 (position + 3) rest).map (charOfCode code :: ·)
        else if a == 0xED && 0xA0 ≤ b then fault [a] .continuation
        else fault [a, b] .continuation
    else if a < 0xF5 then
      match rest with
      | [] => fault [a] .ended
      | [b] => if followsFour a b then fault [a, b] .ended else fault [a] .continuation
      | [b, c] =>
        if !followsFour a b then fault [a] .continuation
        else if isContinuation c then fault [a, b, c] .ended
        else fault [a, b] .continuation
      | b :: c :: d :: rest =>
        if !followsFour a b then fault [a] .continuation
        else if !isContinuation c then fault [a, b] .continuation
        else if isContinuation d then
          (decodeUtf8 (position + 4) rest).map
            (charOfCode (extend (extend (extend (a.toNat % 8) b) c) d) :: ·)
        else fault [a, b, c] .continuation
    else fault [a] .startByte

/-- The 16-bit unit of two bytes. -/
def unit16 (bigEndian : Bool) (a b : UInt8) : Nat :=
  if bigEndian then 256 * a.toNat + b.toNat else 256 * b.toNat + a.toNat

def isHighSurrogate (unit : Nat) : Bool := 0xD800 ≤ unit && unit < 0xDC00
def isLowSurrogate (unit : Nat) : Bool := 0xDC00 ≤ unit && unit < 0xE000

/-- The code point of a surrogate pair. -/
def joinSurrogates (high low : Nat) : Nat := 0x10000 + 0x400 * (high - 0xD800) + (low - 0xDC00)

def decodeUtf16 (bigEndian : Bool) (position : Nat) : List UInt8 → Except DecodeFault (List Char)
  | [] => .ok []
  | [a] => .error ⟨.utf16 bigEndian, position, [a], .truncated⟩
  | a :: b :: rest =>
    let unit := unit16 bigEndian a b
    match rest with
    | c :: d :: after =>
      if isHighSurrogate unit && isLowSurrogate (unit16 bigEndian c d) then
        (decodeUtf16 bigEndian (position + 4) after).map
          (charOfCode (joinSurrogates unit (unit16 bigEndian c d)) :: ·)
      else (decodeUtf16 bigEndian (position + 2) (c :: d :: after)).map (charOfCode unit :: ·)
    | rest => (decodeUtf16 bigEndian (position + 2) rest).map (charOfCode unit :: ·)

def decodeUtf32 (bigEndian : Bool) (position : Nat) : List UInt8 → Except DecodeFault (List Char)
  | [] => .ok []
  | a :: b :: c :: d :: rest =>
    let code :=
      if bigEndian then 65536 * unit16 true a b + unit16 true c d
      else 65536 * unit16 false c d + unit16 false a b
    if code < 0x110000 then
      (decodeUtf32 bigEndian (position + 4) rest).map (charOfCode code :: ·)
    else .error ⟨.utf32 bigEndian, position, [a, b, c, d], .outOfRange⟩
  | bytes => .error ⟨.utf32 bigEndian, position, bytes, .truncated⟩

def decode (encoding : Encoding) (position : Nat) (bytes : List UInt8) :
    Except DecodeFault (List Char) :=
  match encoding with
  | .utf8 => decodeUtf8 position bytes
  | .utf16 bigEndian => decodeUtf16 bigEndian position bytes
  | .utf32 bigEndian => decodeUtf32 bigEndian position bytes

/-- The text of well-formed UTF-8 without surrogates. -/
def utf8Text? (bytes : List UInt8) : Option String := String.fromUTF8? ⟨bytes.toArray⟩

def utf8Bytes (text : String) : List UInt8 := text.toUTF8.toList

/-- The place of the first surrogate that is written in three bytes, the length if there is none. -/
def surrogatePlace : List UInt8 → Nat
  | a :: b :: rest => if a == 0xED && 0xA0 ≤ b then 0 else surrogatePlace (b :: rest) + 1
  | bytes => bytes.length

/-- What is wrong with bytes that are not well-formed UTF-8. A surrogate encodes nothing here, so the
first one is at fault unless other bytes encode nothing before it. -/
def utf8Fault (bytes : List UInt8) : DecodeFault :=
  let place := surrogatePlace bytes
  let surrogate := DecodeFault.mk .utf8 place ((bytes.drop place).take 1) .continuation
  match decodeUtf8 0 bytes with
  | .ok _ => surrogate
  | .error fault => if place < fault.position then surrogate else fault

/-- The text of well-formed UTF-8 without surrogates, or what is wrong with the bytes. -/
def strictUtf8 (bytes : List UInt8) : Except DecodeFault String :=
  match utf8Text? bytes with
  | some text => .ok text
  | none => .error (utf8Fault bytes)

end LayerTwo.Text
