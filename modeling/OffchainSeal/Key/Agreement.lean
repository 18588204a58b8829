import OffchainSeal.Cipher.Aes256
import OffchainSeal.Digest.Sha2
import OffchainSeal.Key.Private

/-!
# Key agreement

Two parties derive one secret, each from the own private and the other's public
key: the first coordinate of the common point, stretched by SHA-512 into a
cipher key and a tag key.
-/

namespace OffchainSeal

open Curve

/-- The key material that two parties share. -/
structure SharedSecret where
  /-- The key of the cipher. -/
  cipherKey : Vector UInt8 32
  /-- The key of the tags. -/
  tagKey : Vector UInt8 32
  deriving DecidableEq

namespace SharedSecret

/-- The two halves of a digest of sixty-four bytes. -/
def ofDigest (digest : Vector UInt8 64) : SharedSecret where
  cipherKey := Vector.ofFn fun i => digest.get ⟨i.val, by omega⟩
  tagKey := Vector.ofFn fun i => digest.get ⟨32 + i.val, by omega⟩

/-- Both keys, the cipher key first. -/
def toBytes (s : SharedSecret) : Bytes :=
  s.cipherKey.toList ++ s.tagKey.toList

/-- The secret in reports, which never show it. -/
def describe (_ : SharedSecret) : String :=
  "SharedSecret([REDACTED])"

end SharedSecret

/-- The first coordinate of the common point, unless that point is at infinity or
its first coordinate is zero. -/
def agree? (own : PrivateKey) (other : PublicKey) : Option FieldElement :=
  match Point.multiple own.scalar other.toPoint with
  | .infinity => none
  | .affine x _ => if x = 0 then none else some x

/-- The secret shared by the holder of `own` and the holder of the private key to
`other`, unless the common point is unusable. -/
def SharedSecret.derive? (own : PrivateKey) (other : PublicKey) : Option SharedSecret :=
  (agree? own other).map fun x => .ofDigest (Digest.sha512 (Bytes.ofNat 32 x.val))

end OffchainSeal
