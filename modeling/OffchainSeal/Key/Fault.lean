import OffchainSeal.Bytes.Base58
import OffchainSeal.Text.Quoted

/-!
# Faults of key strings

Everything that can be wrong with a key, and its wording.
-/

namespace OffchainSeal

/-- The wording of a fault in base 58. -/
def Base58.Fault.message : Base58.Fault → String
  | .badCharacter c index =>
    s!"provided string contained invalid character {Text.quoteChar c} at byte {index}"
  | .nonAscii index =>
    s!"provided string contained non-ascii character starting at byte {index}"

namespace Key

/-- Why a text or a byte string is no key. -/
inductive Fault where
  /-- The body is not in base 58. -/
  | base58 (fault : Base58.Fault)
  /-- The body and its checksum have the wrong length. -/
  | decodedLength (actual expected : Nat)
  /-- The checksum does not belong to the body. -/
  | checksum
  /-- A raw private key has the wrong length. -/
  | scalarLength (actual : Nat)
  /-- A private key is zero or not below the group order. -/
  | scalarRange
  /-- A wallet import text has the wrong length, or the wrong flag for its length. -/
  | wifLength (actual : Nat)
  /-- A wallet import text begins with the wrong byte. -/
  | wifVersion (actual : UInt8)
  /-- The checksum of a wallet import text does not belong to its body. -/
  | wifChecksum
  /-- A typed private key does not begin with its tag. -/
  | untypedPrivate
  /-- An encoded point has the wrong length. -/
  | pointLength (actual : Nat)
  /-- The encoding stands for no point of the curve. -/
  | offCurve
  /-- A typed public key is for another curve. -/
  | otherCurve (curve : List Char)
  /-- A public key begins with neither of the two tags. -/
  | untaggedPublic
  deriving DecidableEq, Repr

/-- A byte as two hexadecimal digits. -/
def byteText (b : UInt8) : String :=
  String.ofList [Nat.digitChar (b.toNat / 16), Nat.digitChar (b.toNat % 16)]

/-- The wording of a fault. -/
def Fault.message : Fault → String
  | .base58 fault => s!"invalid base58: {fault.message}"
  | .decodedLength actual expected => s!"decoded key is {actual} bytes, expected {expected}"
  | .checksum => "key checksum mismatch"
  | .scalarLength actual => s!"private key must be 32 bytes, got {actual}"
  | .scalarRange => "private scalar out of range"
  | .wifLength actual => s!"WIF payload has unexpected length {actual}"
  | .wifVersion actual => s!"WIF version byte 0x{byteText actual}, expected 0x80"
  | .wifChecksum => "WIF checksum mismatch"
  | .untypedPrivate => "missing PVT_K1_ prefix"
  | .pointLength actual => s!"compressed point must be 33 bytes, got {actual}"
  | .offCurve => "point is not on secp256k1"
  | .otherCurve curve =>
    s!"unsupported curve in public key prefix: {String.ofList curve}"
  | .untaggedPublic => "public key must start with FIO or PUB_K1_"

end Key
end OffchainSeal
