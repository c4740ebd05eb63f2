/-!
# Digests

The two digests of the Secure Hash Standard that name contents: one of 160 bits and one of 256. Both
cut the padded bytes into blocks of sixteen words and work each block into a state.
-/

namespace GameFixes.Digest

/-! ### Blocks -/

/-- How many bytes there are in a block. -/
def blockSize : Nat := 64

/-- The bytes of a number of 64 bits, the most significant first. -/
def bytesOfNumber (n : Nat) : List UInt8 :=
  (List.range 8).map fun i => (n >>> (8 * (7 - i))).toUInt8

/-- How many zeros stand between the mark behind some bytes and their number. -/
def zerosFor (length : Nat) : Nat := (blockSize * 2 - (length + 9) % blockSize) % blockSize

/-- Bytes with a mark, zeros and the number of their bits behind them. -/
def padded (bytes : List UInt8) : List UInt8 :=
  bytes ++ 0x80 :: List.replicate (zerosFor bytes.length) 0 ++ bytesOfNumber (bytes.length * 8)

/-- The words that bytes spell, four each, the most significant first. -/
def words : List UInt8 → List UInt32
  | a :: b :: c :: d :: bytes =>
    (a.toUInt32 <<< 24 ||| b.toUInt32 <<< 16 ||| c.toUInt32 <<< 8 ||| d.toUInt32) :: words bytes
  | _ => []

/-- The blocks of sixteen words. -/
def blocks (fuel : Nat) (l : List UInt32) : List (List UInt32) :=
  match fuel with
  | 0 => []
  | fuel + 1 => if l.isEmpty then [] else l.take 16 :: blocks fuel (l.drop 16)

/-- The blocks that bytes are cut into. -/
def blocksOf (bytes : List UInt8) : List (List UInt32) :=
  let l := words (padded bytes)
  blocks l.length l

def rotateLeft (x n : UInt32) : UInt32 := x <<< n ||| x >>> (32 - n)
def rotateRight (x n : UInt32) : UInt32 := x >>> n ||| x <<< (32 - n)

/-- A word of a schedule. -/
def wordAt (schedule : Array UInt32) (i : Nat) : UInt32 := schedule.getD i 0

def choose (x y z : UInt32) : UInt32 := (x &&& y) ^^^ (~~~x &&& z)
def majority (x y z : UInt32) : UInt32 := (x &&& y) ^^^ (x &&& z) ^^^ (y &&& z)

/-- The bytes of words. -/
def bytesOfWords (l : List UInt32) : List UInt8 :=
  l.flatMap fun w => [24, 16, 8, 0].map fun n => (w >>> n).toUInt8

/-! ### 160 bits -/

/-- The words that a block is worked in with: its own and as many as make eighty. -/
def longSchedule (block : List UInt32) : Array UInt32 :=
  (List.range 64).foldl (fun w i =>
    w.push (rotateLeft (wordAt w (i + 13) ^^^ wordAt w (i + 8) ^^^ wordAt w (i + 2) ^^^ wordAt w i)
      1)) block.toArray

/-- The function and the constant of a round. -/
def roundOf (i : Nat) (x y z : UInt32) : UInt32 :=
  if i < 20 then choose x y z + 0x5A827999
  else if i < 40 then (x ^^^ y ^^^ z) + 0x6ED9EBA1
  else if i < 60 then majority x y z + 0x8F1BBCDC
  else (x ^^^ y ^^^ z) + 0xCA62C1D6

/-- A state of five words. -/
structure Five where
  a : UInt32 := 0x67452301
  b : UInt32 := 0xEFCDAB89
  c : UInt32 := 0x98BADCFE
  d : UInt32 := 0x10325476
  e : UInt32 := 0xC3D2E1F0

/-- Works a block into a state. -/
def Five.add (s : Five) (block : List UInt32) : Five :=
  let w := longSchedule block
  let t := (List.range 80).foldl (fun (t : Five) i =>
    ⟨rotateLeft t.a 5 + roundOf i t.b t.c t.d + t.e + wordAt w i, t.a, rotateLeft t.b 30, t.c, t.d⟩)
    s
  ⟨s.a + t.a, s.b + t.b, s.c + t.c, s.d + t.d, s.e + t.e⟩

/-- The digest of 160 bits. -/
def short (bytes : List UInt8) : List UInt8 :=
  let s := (blocksOf bytes).foldl Five.add {}
  bytesOfWords [s.a, s.b, s.c, s.d, s.e]

/-! ### 256 bits -/

/-- The constants of the rounds: the first bits of the cube roots of the first primes. -/
def roundConstants : Array UInt32 :=
  #[0x428a2f98, 0x71374491, 0xb5c0fbcf, 0xe9b5dba5, 0x3956c25b, 0x59f111f1, 0x923f82a4, 0xab1c5ed5,
    0xd807aa98, 0x12835b01, 0x243185be, 0x550c7dc3, 0x72be5d74, 0x80deb1fe, 0x9bdc06a7, 0xc19bf174,
    0xe49b69c1, 0xefbe4786, 0x0fc19dc6, 0x240ca1cc, 0x2de92c6f, 0x4a7484aa, 0x5cb0a9dc, 0x76f988da,
    0x983e5152, 0xa831c66d, 0xb00327c8, 0xbf597fc7, 0xc6e00bf3, 0xd5a79147, 0x06ca6351, 0x14292967,
    0x27b70a85, 0x2e1b2138, 0x4d2c6dfc, 0x53380d13, 0x650a7354, 0x766a0abb, 0x81c2c92e, 0x92722c85,
    0xa2bfe8a1, 0xa81a664b, 0xc24b8b70, 0xc76c51a3, 0xd192e819, 0xd6990624, 0xf40e3585, 0x106aa070,
    0x19a4c116, 0x1e376c08, 0x2748774c, 0x34b0bcb5, 0x391c0cb3, 0x4ed8aa4a, 0x5b9cca4f, 0x682e6ff3,
    0x748f82ee, 0x78a5636f, 0x84c87814, 0x8cc70208, 0x90befffa, 0xa4506ceb, 0xbef9a3f7, 0xc67178f2]

/-- The words that a block is worked in with: its own and as many as make sixty-four. -/
def wideSchedule (block : List UInt32) : Array UInt32 :=
  (List.range 48).foldl (fun w i =>
    let x := wordAt w (i + 1)
    let y := wordAt w (i + 14)
    w.push (wordAt w i + (rotateRight x 7 ^^^ rotateRight x 18 ^^^ x >>> 3) + wordAt w (i + 9) +
      (rotateRight y 17 ^^^ rotateRight y 19 ^^^ y >>> 10))) block.toArray

/-- A state of eight words. -/
structure Eight where
  a : UInt32 := 0x6a09e667
  b : UInt32 := 0xbb67ae85
  c : UInt32 := 0x3c6ef372
  d : UInt32 := 0xa54ff53a
  e : UInt32 := 0x510e527f
  f : UInt32 := 0x9b05688c
  g : UInt32 := 0x1f83d9ab
  h : UInt32 := 0x5be0cd19

/-- Works a block into a state. -/
def Eight.add (s : Eight) (block : List UInt32) : Eight :=
  let w := wideSchedule block
  let t := (List.range 64).foldl (fun (t : Eight) i =>
    let x := t.h + (rotateRight t.e 6 ^^^ rotateRight t.e 11 ^^^ rotateRight t.e 25) +
      choose t.e t.f t.g + roundConstants.getD i 0 + wordAt w i
    let y := (rotateRight t.a 2 ^^^ rotateRight t.a 13 ^^^ rotateRight t.a 22) +
      majority t.a t.b t.c
    ⟨x + y, t.a, t.b, t.c, t.d + x, t.e, t.f, t.g⟩) s
  ⟨s.a + t.a, s.b + t.b, s.c + t.c, s.d + t.d, s.e + t.e, s.f + t.f, s.g + t.g, s.h + t.h⟩

/-- The digest of 256 bits. -/
def long (bytes : List UInt8) : List UInt8 :=
  let s := (blocksOf bytes).foldl Eight.add {}
  bytesOfWords [s.a, s.b, s.c, s.d, s.e, s.f, s.g, s.h]

/-! ### Digits -/

/-- The hexadecimal digit of a number below sixteen. -/
def hexDigit (n : Nat) : Char := if n < 10 then Char.ofNat (48 + n) else Char.ofNat (87 + n)

/-- Bytes as hexadecimal digits. -/
def hex (bytes : List UInt8) : String :=
  String.ofList (bytes.flatMap fun b => [hexDigit (b.toNat / 16), hexDigit (b.toNat % 16)])

end GameFixes.Digest
