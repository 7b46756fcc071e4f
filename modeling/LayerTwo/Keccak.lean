/-! Keccak-256, the sponge over 25 lanes of 64 bits with rate 136 and plain single-bit
padding. A digest always has 32 bytes. -/
namespace LayerTwo.Keccak

abbrev State := Array UInt64

/-- The lane in column `x` and row `y`, both taken modulo five. -/
def lane (state : State) (x y : Nat) : UInt64 := state.getD (x % 5 + 5 * (y % 5)) 0

/-- The state whose lane in column `x` and row `y` is `f x y`. -/
def build (f : Nat → Nat → UInt64) : State := Array.ofFn fun i : Fin 25 => f (i.val % 5) (i.val / 5)

def rotateLeft (word : UInt64) (amount : Nat) : UInt64 :=
  if amount = 0 then word
  else (word <<< UInt64.ofNat amount) ||| (word >>> UInt64.ofNat (64 - amount))

def rotations : State := #[
  0, 1, 62, 28, 27,
  36, 44, 6, 55, 20,
  3, 10, 43, 25, 39,
  41, 45, 15, 21, 8,
  18, 2, 61, 56, 14]

def roundConstants : List UInt64 := [
  0x0000000000000001, 0x0000000000008082, 0x800000000000808A, 0x8000000080008000,
  0x000000000000808B, 0x0000000080000001, 0x8000000080008081, 0x8000000000008009,
  0x000000000000008A, 0x0000000000000088, 0x0000000080008009, 0x000000008000000A,
  0x000000008000808B, 0x800000000000008B, 0x8000000000008089, 0x8000000000008003,
  0x8000000000008002, 0x8000000000000080, 0x000000000000800A, 0x800000008000000A,
  0x8000000080008081, 0x8000000000008080, 0x0000000080000001, 0x8000000080008008]

/-- Adds to each lane the parities of the columns beside it. -/
def theta (state : State) : State :=
  let parity : State := Array.ofFn fun x : Fin 5 =>
    lane state x 0 ^^^ lane state x 1 ^^^ lane state x 2 ^^^ lane state x 3 ^^^ lane state x 4
  build fun x y =>
    lane state x y ^^^ parity.getD ((x + 4) % 5) 0 ^^^ rotateLeft (parity.getD ((x + 1) % 5) 0) 1

/-- Rotates every lane and moves it to its new place. -/
def rhoPi (state : State) : State :=
  build fun x y => rotateLeft (lane state (x + 3 * y) x) (lane rotations (x + 3 * y) x).toNat

def chi (state : State) : State :=
  build fun x y => lane state x y ^^^ (~~~(lane state (x + 1) y) &&& lane state (x + 2) y)

def iota (state : State) (constant : UInt64) : State :=
  state.setIfInBounds 0 (state.getD 0 0 ^^^ constant)

def permute (state : State) : State :=
  roundConstants.foldl (fun s constant => iota (chi (rhoPi (theta s))) constant) state

/-- The number of message bytes taken in between two permutations. -/
def rate : Nat := 136

/-- The message with a one bit, zeros and a closing one bit, to a multiple of the rate. -/
def pad (message : List UInt8) : List UInt8 :=
  let missing := rate - message.length % rate
  if missing = 1 then message ++ [0x81]
  else message ++ 0x01 :: List.replicate (missing - 2) 0 ++ [0x80]

/-- The little-endian word of eight bytes. -/
def wordOfBytes (bytes : List UInt8) : UInt64 :=
  bytes.foldr (fun byte word => (word <<< 8) ||| byte.toUInt64) 0

def bytesOfWord (word : UInt64) : List UInt8 :=
  (List.range 8).map fun i => (word >>> UInt64.ofNat (8 * i)).toUInt8

def absorb (state : State) (block : List UInt8) : State :=
  permute <| build fun x y =>
    let i := x + 5 * y
    if i < 17 then lane state x y ^^^ wordOfBytes ((block.drop (8 * i)).take 8) else lane state x y

def digest (message : List UInt8) : List UInt8 :=
  let padded := pad message
  let blocks := (List.range (padded.length / rate)).map fun i => (padded.drop (rate * i)).take rate
  let final := blocks.foldl absorb (Array.replicate 25 0)
  (List.range 4).flatMap fun i => bytesOfWord (final.getD i 0)

theorem length_digest (message : List UInt8) : (digest message).length = 32 := by
  simp [digest, bytesOfWord, List.range_succ]

/-- The digest of an ASCII text. -/
def digestText (text : List Char) : List UInt8 :=
  digest (text.map fun c => UInt8.ofNat c.toNat)

end LayerTwo.Keccak
