import OffchainSeal.Bytes.Basic
import OffchainSeal.Cipher.ByteField

/-!
# The AES-256 block cipher

One block at a time (FIPS 197). A round substitutes bytes, shifts rows, mixes
columns and adds a round key; the last one does not mix. Decryption walks the
same round keys and undoes each step, so that it inverts encryption step by
step.
-/

namespace OffchainSeal.Cipher

/-- A block of sixteen bytes, column after column. -/
abbrev Block := Vector UInt8 16

/-- A key of thirty-two bytes. -/
abbrev CipherKey := Vector UInt8 32

namespace Aes256

/-! ## Bytes -/

/-- Rotation of a byte to the left by `n`, which is less than eight and not zero. -/
def rotate (b n : UInt8) : UInt8 :=
  (b <<< n) ||| (b >>> (8 - n))

/-- The affine map of the byte substitution. -/
def affine (b : UInt8) : UInt8 :=
  b ^^^ rotate b 1 ^^^ rotate b 2 ^^^ rotate b 3 ^^^ rotate b 4 ^^^ 0x63

/-- The inverse of the affine map. -/
def affineInverse (b : UInt8) : UInt8 :=
  rotate b 1 ^^^ rotate b 3 ^^^ rotate b 6 ^^^ 0x05

/-- The substitution of every byte. -/
def substitutes : Vector UInt8 256 :=
  Vector.ofFn fun i => affine (ByteField.inverse (UInt8.ofNat i.val))

/-- The substitution that undoes `substitutes`. -/
def unsubstitutes : Vector UInt8 256 :=
  Vector.ofFn fun i => ByteField.inverse (affineInverse (UInt8.ofNat i.val))

/-- The substitute of a byte. -/
def substitute (b : UInt8) : UInt8 :=
  substitutes.get b.toFin

/-- The byte that `b` is the substitute of. -/
def unsubstitute (b : UInt8) : UInt8 :=
  unsubstitutes.get b.toFin

/-! ## Blocks -/

/-- The bytes of two blocks added pairwise. -/
def add (s t : Block) : Block :=
  Vector.zipWith (· ^^^ ·) s t

/-- Row `r` of the block moved `r` places to the left. -/
def shiftRows (s : Block) : Block :=
  Vector.ofFn fun i => s.get ⟨(i.val + 4 * (i.val % 4)) % 16, Nat.mod_lt _ (by decide)⟩

/-- Row `r` of the block moved `r` places to the right. -/
def unshiftRows (s : Block) : Block :=
  Vector.ofFn fun i => s.get ⟨(i.val + 12 * (i.val % 4)) % 16, Nat.mod_lt _ (by decide)⟩

/-- Each column multiplied by the circulant matrix whose first row is `row`. -/
def mixWith (row : UInt8 × UInt8 × UInt8 × UInt8) (s : Block) : Block :=
  Vector.ofFn fun i =>
    let place (k : Nat) : Fin 16 :=
      ⟨(4 * (i.val / 4) + (i.val + k) % 4) % 16, Nat.mod_lt _ (by decide)⟩
    ByteField.mul (s.get (place 0)) row.1 ^^^ ByteField.mul (s.get (place 1)) row.2.1 ^^^
      ByteField.mul (s.get (place 2)) row.2.2.1 ^^^ ByteField.mul (s.get (place 3)) row.2.2.2

/-- The mixing step of encryption. -/
def mixColumns (s : Block) : Block :=
  mixWith (2, 3, 1, 1) s

/-- The mixing step of decryption. -/
def unmixColumns (s : Block) : Block :=
  mixWith (14, 11, 13, 9) s

/-! ## Round keys -/

/-- A column of four bytes. -/
abbrev Column := List UInt8

/-- The columns after those of the key: each is the one eight places back plus
the last one, which is rotated, substituted and stepped at the start of a key
length and substituted in its middle. `window` holds the eight last columns,
`index` is the number of the next, `step` the constant of the next key length. -/
def expand : Nat → Nat → UInt8 → List Column → List Column
  | 0, _, _, _ => []
  | n + 1, index, step, window =>
    let last := window.getD 7 []
    let mixed :=
      if index % 8 = 0 then
        List.zipWith (· ^^^ ·) ((last.drop 1 ++ last.take 1).map substitute) [step, 0, 0, 0]
      else if index % 8 = 4 then last.map substitute
      else last
    let next := List.zipWith (· ^^^ ·) (window.getD 0 []) mixed
    let step' := if index % 8 = 0 then ByteField.timesX step else step
    next :: expand n (index + 1) step' (window.drop 1 ++ [next])

/-- The fifteen round keys. -/
def roundKeys (key : CipherKey) : List Block :=
  let columns := Bytes.chunks 4 key.toList
  (Bytes.chunks 16 (columns ++ expand 52 8 1 columns).flatten).map (Bytes.toVector 16)

/-! ## The cipher -/

/-- The rounds after the first key was added, one for each key. -/
def rounds (s : Block) : List Block → Block
  | [] => s
  | [k] => add (shiftRows (s.map substitute)) k
  | k :: ks => rounds (add (mixColumns (shiftRows (s.map substitute))) k) ks

/-- Undoes `rounds`. -/
def unrounds (s : Block) : List Block → Block
  | [] => s
  | [k] => (unshiftRows (add s k)).map unsubstitute
  | k :: ks => (unshiftRows (unmixColumns (add (unrounds s ks) k))).map unsubstitute

/-- Encrypts a block under the round keys. -/
def encryptWith (keys : List Block) (s : Block) : Block :=
  match keys with
  | [] => s
  | k :: ks => rounds (add s k) ks

/-- Decrypts a block under the round keys. -/
def decryptWith (keys : List Block) (s : Block) : Block :=
  match keys with
  | [] => s
  | k :: ks => add (unrounds s ks) k

end Aes256
end OffchainSeal.Cipher
