import OffchainSeal.Bytes.Basic

/-!
# The RIPEMD-160 digest

Two lines of eighty rounds run over each block with their own word orders,
rotations and constants; their results are crossed into the chaining value.
Words are little-endian.
-/

namespace OffchainSeal.Digest.Ripemd160

/-- A word. -/
abbrev Word := BitVec 32

/-- The five working variables. -/
structure State where
  a : Word
  b : Word
  c : Word
  d : Word
  e : Word

/-- What one line does in one round: which message word it takes, how far it
rotates, and what it adds. -/
structure Step where
  word : Nat
  rotation : Nat
  constant : Word
  /-- Which of the five bit functions it applies. -/
  mixer : Nat

/-- The five bit functions, from the plainest on. -/
def mix (n : Nat) (x y z : Word) : Word :=
  match n with
  | 0 => x ^^^ y ^^^ z
  | 1 => (x &&& y) ||| (~~~x &&& z)
  | 2 => (x ||| ~~~y) ^^^ z
  | 3 => (x &&& z) ||| (y &&& ~~~z)
  | _ => x ^^^ (y ||| ~~~z)

/-- One round of one line over the message words of a block. -/
def round (block : List Word) (s : State) (step : Step) : State :=
  let sum := s.a + mix step.mixer s.b s.c s.d + block.getD step.word 0 + step.constant
  ⟨s.e, sum.rotateLeft step.rotation + s.e, s.b, s.c.rotateLeft 10, s.d⟩

/-! ## The schedules of the two lines -/

/-- The order of message words in the left line. -/
def leftWords : List Nat :=
  [0, 1, 2, 3, 4, 5, 6, 7, 8, 9, 10, 11, 12, 13, 14, 15,
   7, 4, 13, 1, 10, 6, 15, 3, 12, 0, 9, 5, 2, 14, 11, 8,
   3, 10, 14, 4, 9, 15, 8, 1, 2, 7, 0, 6, 13, 11, 5, 12,
   1, 9, 11, 10, 0, 8, 12, 4, 13, 3, 7, 15, 14, 5, 6, 2,
   4, 0, 5, 9, 7, 12, 2, 10, 14, 1, 3, 8, 11, 6, 15, 13]

/-- The order of message words in the right line. -/
def rightWords : List Nat :=
  [5, 14, 7, 0, 9, 2, 11, 4, 13, 6, 15, 8, 1, 10, 3, 12,
   6, 11, 3, 7, 0, 13, 5, 10, 14, 15, 8, 12, 4, 9, 1, 2,
   15, 5, 1, 3, 7, 14, 6, 9, 11, 8, 12, 2, 10, 0, 4, 13,
   8, 6, 4, 1, 3, 11, 15, 0, 5, 12, 2, 13, 9, 7, 10, 14,
   12, 15, 10, 4, 1, 5, 8, 7, 6, 2, 13, 14, 0, 3, 9, 11]

/-- The rotations of the left line. -/
def leftRotations : List Nat :=
  [11, 14, 15, 12, 5, 8, 7, 9, 11, 13, 14, 15, 6, 7, 9, 8,
   7, 6, 8, 13, 11, 9, 7, 15, 7, 12, 15, 9, 11, 7, 13, 12,
   11, 13, 6, 7, 14, 9, 13, 15, 14, 8, 13, 6, 5, 12, 7, 5,
   11, 12, 14, 15, 14, 15, 9, 8, 9, 14, 5, 6, 8, 6, 5, 12,
   9, 15, 5, 11, 6, 8, 13, 12, 5, 12, 13, 14, 11, 8, 5, 6]

/-- The rotations of the right line. -/
def rightRotations : List Nat :=
  [8, 9, 9, 11, 13, 15, 15, 5, 7, 7, 8, 11, 14, 14, 12, 6,
   9, 13, 15, 7, 12, 8, 9, 11, 7, 7, 12, 7, 6, 15, 13, 11,
   9, 7, 15, 11, 8, 6, 6, 14, 12, 13, 5, 14, 13, 13, 7, 5,
   15, 5, 8, 11, 14, 14, 6, 14, 6, 9, 12, 9, 12, 5, 15, 8,
   8, 5, 12, 9, 12, 5, 14, 6, 8, 13, 6, 5, 15, 13, 11, 11]

/-- The constants of the left line, one for each sixteen rounds. -/
def leftConstants : List Word :=
  [0x00000000, 0x5a827999, 0x6ed9eba1, 0x8f1bbcdc, 0xa953fd4e]

/-- The constants of the right line, one for each sixteen rounds. -/
def rightConstants : List Word :=
  [0x50a28be6, 0x5c4dd124, 0x6d703ef3, 0x7a6d76e9, 0x00000000]

/-- The rounds of a line; `mixer` picks the bit function for each sixteen rounds. -/
def steps (words rotations : List Nat) (constants : List Word) (mixer : Nat → Nat) :
    List Step :=
  (List.range 80).map fun i =>
    ⟨words.getD i 0, rotations.getD i 0, constants.getD (i / 16) 0, mixer (i / 16)⟩

/-- The rounds of the left line. -/
def leftSteps : List Step := steps leftWords leftRotations leftConstants id

/-- The rounds of the right line, which takes the bit functions backwards. -/
def rightSteps : List Step := steps rightWords rightRotations rightConstants (4 - ·)

/-! ## From bytes to digests -/

/-- Works one block, given as its sixteen words, into the chaining value. -/
def compress (s : State) (block : List Word) : State :=
  let l := leftSteps.foldl (round block) s
  let r := rightSteps.foldl (round block) s
  ⟨s.b + l.c + r.d, s.c + l.d + r.e, s.d + l.e + r.a, s.e + l.a + r.b, s.a + l.b + r.c⟩

/-- The message followed by a one bit, zeros, and its length in bits in eight
little-endian bytes, up to a multiple of 64 bytes. -/
def pad (message : Bytes) : Bytes :=
  let used := (message.length + 9) % 64
  let zeros := (64 - used) % 64
  message ++ [0x80] ++ List.replicate zeros 0 ++ Bytes.ofNatLE 8 (8 * message.length)

/-- The chaining value before the first block. -/
def initial : State :=
  ⟨0x67452301, 0xefcdab89, 0x98badcfe, 0x10325476, 0xc3d2e1f0⟩

end Ripemd160

/-- The RIPEMD-160 digest. -/
def ripemd160 (message : Bytes) : Vector UInt8 20 :=
  let last := (Bytes.chunks 64 (Ripemd160.pad message)).foldl
    (fun s block => Ripemd160.compress s
      ((Bytes.chunks 4 block).map fun b => BitVec.ofNat 32 (Bytes.toNatLE b)))
    Ripemd160.initial
  Bytes.toVector 20
    ([last.a, last.b, last.c, last.d, last.e].flatMap fun x => Bytes.ofNatLE 4 x.toNat)

end OffchainSeal.Digest
