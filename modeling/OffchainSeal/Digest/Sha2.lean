import OffchainSeal.Bytes.Basic

/-!
# The SHA-2 digests

SHA-256 and SHA-512 are one algorithm with different parameters (FIPS 180-4):
the width of a word, the number of rounds, the rotation amounts and the
constants. The constants of SHA-256 are the upper halves of those of SHA-512.
-/

namespace OffchainSeal.Digest

/-- What tells the members of the SHA-2 family apart. `w` is the width of a word
in bits. -/
structure Sha2 (w : Nat) where
  /-- Rotations of the sum taken of the first working variable. -/
  bigZero : Nat × Nat × Nat
  /-- Rotations of the sum taken of the fifth working variable. -/
  bigOne : Nat × Nat × Nat
  /-- Two rotations and a shift, for the word fifteen places back. -/
  smallZero : Nat × Nat × Nat
  /-- Two rotations and a shift, for the word two places back. -/
  smallOne : Nat × Nat × Nat
  /-- The chaining value before the first block. -/
  initial : List (BitVec w)
  /-- One constant for each round. -/
  constants : List (BitVec w)

namespace Sha2

/-! ## The round function -/

/-- The eight working variables. -/
structure State (w : Nat) where
  a : BitVec w
  b : BitVec w
  c : BitVec w
  d : BitVec w
  e : BitVec w
  f : BitVec w
  g : BitVec w
  h : BitVec w

variable {w : Nat}

/-- The working variables as a list. -/
def State.toList (s : State w) : List (BitVec w) :=
  [s.a, s.b, s.c, s.d, s.e, s.f, s.g, s.h]

/-- The working variables from their first eight values. -/
def State.ofList (l : List (BitVec w)) : State w :=
  ⟨l.getD 0 0, l.getD 1 0, l.getD 2 0, l.getD 3 0, l.getD 4 0, l.getD 5 0, l.getD 6 0,
    l.getD 7 0⟩

/-- Three rotations, added without carry. -/
def rotations (r : Nat × Nat × Nat) (x : BitVec w) : BitVec w :=
  x.rotateRight r.1 ^^^ x.rotateRight r.2.1 ^^^ x.rotateRight r.2.2

/-- Two rotations and a shift, added without carry. -/
def rotationsShift (r : Nat × Nat × Nat) (x : BitVec w) : BitVec w :=
  x.rotateRight r.1 ^^^ x.rotateRight r.2.1 ^^^ (x >>> r.2.2)

/-- The bits of `y` where `x` has ones, the bits of `z` elsewhere. -/
def choose (x y z : BitVec w) : BitVec w :=
  (x &&& y) ^^^ (~~~x &&& z)

/-- The bits that at least two of the three words have. -/
def majority (x y z : BitVec w) : BitVec w :=
  (x &&& y) ^^^ (x &&& z) ^^^ (y &&& z)

/-- One round with schedule word `word` and constant `k`. -/
def round (p : Sha2 w) (s : State w) (word k : BitVec w) : State w :=
  let t₁ := s.h + rotations p.bigOne s.e + choose s.e s.f s.g + k + word
  let t₂ := rotations p.bigZero s.a + majority s.a s.b s.c
  ⟨t₁ + t₂, s.a, s.b, s.c, s.d + t₁, s.e, s.f, s.g⟩

/-- The next `n` words of the message schedule; `window` holds the sixteen that
come first. -/
def schedule (p : Sha2 w) : Nat → List (BitVec w) → List (BitVec w)
  | 0, _ => []
  | n + 1, window =>
    let next := rotationsShift p.smallOne (window.getD 14 0) + window.getD 9 0 +
      rotationsShift p.smallZero (window.getD 1 0) + window.getD 0 0
    window.getD 0 0 :: schedule p n (window.drop 1 ++ [next])

/-- Works one block, given as its sixteen words, into the chaining value. -/
def compress (p : Sha2 w) (chain : List (BitVec w)) (block : List (BitVec w)) :
    List (BitVec w) :=
  let words := p.schedule p.constants.length block
  let last := (words.zip p.constants).foldl (fun s wk => p.round s wk.1 wk.2)
    (State.ofList chain)
  List.zipWith (· + ·) chain last.toList

/-! ## From bytes to digests -/

/-- The message followed by a one bit, zeros, and its length in bits as a
number of two words, up to a multiple of sixteen words. -/
def pad (w : Nat) (message : Bytes) : Bytes :=
  let lengthBytes := w / 4
  let blockBytes := 2 * w
  let used := (message.length + 1 + lengthBytes) % blockBytes
  let zeros := (blockBytes - used) % blockBytes
  message ++ [0x80] ++ List.replicate zeros 0 ++ Bytes.ofNat lengthBytes (8 * message.length)

/-- The chaining value after all blocks of `message`. -/
def run (p : Sha2 w) (message : Bytes) : List (BitVec w) :=
  (Bytes.chunks (2 * w) (pad w message)).foldl
    (fun chain block =>
      p.compress chain ((Bytes.chunks (w / 8) block).map fun b => BitVec.ofNat w (Bytes.toNat b)))
    p.initial

/-- The digest of `message` as bytes. -/
def digest (p : Sha2 w) (message : Bytes) : Bytes :=
  (p.run message).flatMap fun x => Bytes.ofNat (w / 8) x.toNat

end Sha2

/-! ## The two members in use -/

/-- First 64 bits of the fractional parts of the square roots of the first eight
primes. -/
def squareRoots : List (BitVec 64) :=
  [0x6a09e667f3bcc908, 0xbb67ae8584caa73b, 0x3c6ef372fe94f82b, 0xa54ff53a5f1d36f1,
   0x510e527fade682d1, 0x9b05688c2b3e6c1f, 0x1f83d9abfb41bd6b, 0x5be0cd19137e2179]

/-- First 64 bits of the fractional parts of the cube roots of the first eighty
primes. -/
def cubeRoots : List (BitVec 64) :=
  [0x428a2f98d728ae22, 0x7137449123ef65cd, 0xb5c0fbcfec4d3b2f, 0xe9b5dba58189dbbc,
   0x3956c25bf348b538, 0x59f111f1b605d019, 0x923f82a4af194f9b, 0xab1c5ed5da6d8118,
   0xd807aa98a3030242, 0x12835b0145706fbe, 0x243185be4ee4b28c, 0x550c7dc3d5ffb4e2,
   0x72be5d74f27b896f, 0x80deb1fe3b1696b1, 0x9bdc06a725c71235, 0xc19bf174cf692694,
   0xe49b69c19ef14ad2, 0xefbe4786384f25e3, 0x0fc19dc68b8cd5b5, 0x240ca1cc77ac9c65,
   0x2de92c6f592b0275, 0x4a7484aa6ea6e483, 0x5cb0a9dcbd41fbd4, 0x76f988da831153b5,
   0x983e5152ee66dfab, 0xa831c66d2db43210, 0xb00327c898fb213f, 0xbf597fc7beef0ee4,
   0xc6e00bf33da88fc2, 0xd5a79147930aa725, 0x06ca6351e003826f, 0x142929670a0e6e70,
   0x27b70a8546d22ffc, 0x2e1b21385c26c926, 0x4d2c6dfc5ac42aed, 0x53380d139d95b3df,
   0x650a73548baf63de, 0x766a0abb3c77b2a8, 0x81c2c92e47edaee6, 0x92722c851482353b,
   0xa2bfe8a14cf10364, 0xa81a664bbc423001, 0xc24b8b70d0f89791, 0xc76c51a30654be30,
   0xd192e819d6ef5218, 0xd69906245565a910, 0xf40e35855771202a, 0x106aa07032bbd1b8,
   0x19a4c116b8d2d0c8, 0x1e376c085141ab53, 0x2748774cdf8eeb99, 0x34b0bcb5e19b48a8,
   0x391c0cb3c5c95a63, 0x4ed8aa4ae3418acb, 0x5b9cca4f7763e373, 0x682e6ff3d6b2b8a3,
   0x748f82ee5defb2fc, 0x78a5636f43172f60, 0x84c87814a1f0ab72, 0x8cc702081a6439ec,
   0x90befffa23631e28, 0xa4506cebde82bde9, 0xbef9a3f7b2c67915, 0xc67178f2e372532b,
   0xca273eceea26619c, 0xd186b8c721c0c207, 0xeada7dd6cde0eb1e, 0xf57d4f7fee6ed178,
   0x06f067aa72176fba, 0x0a637dc5a2c898a6, 0x113f9804bef90dae, 0x1b710b35131c471b,
   0x28db77f523047d84, 0x32caab7b40c72493, 0x3c9ebe0a15c9bebc, 0x431d67c49c100d4c,
   0x4cc5d4becb3e42b6, 0x597f299cfc657e2a, 0x5fcb6fab3ad6faec, 0x6c44198c4a475817]

/-- The upper half of a 64-bit word. -/
def upperHalf (x : BitVec 64) : BitVec 32 :=
  x.extractLsb' 32 32

/-- The parameters of SHA-512. -/
def sha512Parameters : Sha2 64 where
  bigZero := (28, 34, 39)
  bigOne := (14, 18, 41)
  smallZero := (1, 8, 7)
  smallOne := (19, 61, 6)
  initial := squareRoots
  constants := cubeRoots

/-- The parameters of SHA-256. -/
def sha256Parameters : Sha2 32 where
  bigZero := (2, 13, 22)
  bigOne := (6, 11, 25)
  smallZero := (7, 18, 3)
  smallOne := (17, 19, 10)
  initial := squareRoots.map upperHalf
  constants := (cubeRoots.take 64).map upperHalf

/-- The SHA-256 digest. -/
def sha256 (message : Bytes) : Vector UInt8 32 :=
  Bytes.toVector 32 (sha256Parameters.digest message)

/-- The SHA-512 digest. -/
def sha512 (message : Bytes) : Vector UInt8 64 :=
  Bytes.toVector 64 (sha512Parameters.digest message)

end OffchainSeal.Digest
