import LayerTwo.Json.Reader

/-! JSON as it arrives: a text, or bytes in one of the Unicode encoding forms. A byte order mark
names the form; without one, the zero bytes among the first four give it away, since a JSON text
starts with two ASCII characters. -/
namespace LayerTwo.Json

open LayerTwo.Text

def byteOrderMark : Char := '\uFEFF'

/-- The encoding form of bytes without a byte order mark. -/
def guess : List UInt8 → Encoding
  | a :: b :: c :: d :: _ =>
    if a = 0 then (if b = 0 then .utf32 true else .utf16 true)
    else if b = 0 then (if c = 0 ∧ d = 0 then .utf32 false else .utf16 false)
    else .utf8
  | [a, b] => if a = 0 then .utf16 true else if b = 0 then .utf16 false else .utf8
  | _ => .utf8

/-- The encoding form, the place from which positions are counted on, and the bytes after the
mark. A UTF-8 mark is not counted. -/
def detect : List UInt8 → Encoding × Nat × List UInt8
  | 0x00 :: 0x00 :: 0xFE :: 0xFF :: rest => (.utf32 true, 4, rest)
  | 0xFF :: 0xFE :: 0x00 :: 0x00 :: rest => (.utf32 false, 4, rest)
  | 0xFE :: 0xFF :: rest => (.utf16 true, 2, rest)
  | 0xFF :: 0xFE :: rest => (.utf16 false, 2, rest)
  | 0xEF :: 0xBB :: 0xBF :: rest => (.utf8, 0, rest)
  | bytes => (guess bytes, 0, bytes)

def textOfBytes (bytes : List UInt8) : Except DecodeFault (List Char) :=
  let (encoding, position, rest) := detect bytes
  Text.decode encoding position rest

/-- The value of a raw payload. A text that starts with a byte order mark is refused. -/
def readRaw : Value → Except Fault Value
  | .str s =>
    match s.toList with
    | [] => decode []
    | c :: rest =>
      if c = byteOrderMark then .error (.syntaxAt .byteOrderMark (.after []))
      else decode (c :: rest)
  | .bytes octets =>
    match textOfBytes octets with
    | .ok text => decode text
    | .error fault => .error (.undecodable fault)
  | other => .error (.notText other.typeName)

end LayerTwo.Json
