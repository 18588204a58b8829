import OffchainSeal.Digest.Checksum
import OffchainSeal.Key.Fault

/-!
# Bodies with a checksum

A key body is followed by a RIPEMD-160 checksum and written in base 58.
-/

namespace OffchainSeal.Key

/-- The tag of the curve secp256k1, which its checksums cover. -/
def curveTag : Bytes := [0x4b, 0x31]

/-- The base 58 text of the body and its checksum. -/
def encodeChecked (body suffix : Bytes) : List Char :=
  Base58.encode (body ++ Digest.ripemd160Checksum body suffix)

/-- The body of `length` bytes in front of its checksum. -/
def splitChecked (raw : Bytes) (length : Nat) (suffix : Bytes) : Except Fault Bytes :=
  if raw.length ≠ length + 4 then .error (.decodedLength raw.length (length + 4))
  else if Digest.ripemd160Checksum (raw.take length) suffix ≠ raw.drop length then
    .error .checksum
  else .ok (raw.take length)

/-- The body of `length` bytes that a base 58 text with a checksum stands for. -/
def decodeChecked (text : List Char) (length : Nat) (suffix : Bytes) : Except Fault Bytes := do
  let raw ← (Base58.decode text).mapError .base58
  splitChecked raw length suffix

end OffchainSeal.Key
