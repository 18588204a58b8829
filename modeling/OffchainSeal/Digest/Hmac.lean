import OffchainSeal.Digest.Sha2

/-!
# HMAC-SHA256

The keyed digest of RFC 2104 over SHA-256, and the check of a tag against it.
-/

namespace OffchainSeal.Digest

/-- A keyed digest of a message. -/
abbrev Tag := Vector UInt8 32

/-- The key filled up with zeros to a block of 64 bytes; a longer key is replaced
by its digest first. -/
def hmacKey (key : Bytes) : Bytes :=
  let short := if key.length ≤ 64 then key else (sha256 key).toList
  short ++ List.replicate (64 - short.length) 0

/-- The HMAC-SHA256 tag of `message` under `key`. -/
def hmacSha256 (key message : Bytes) : Tag :=
  let block := hmacKey key
  let inner := sha256 (block.map (· ^^^ 0x36) ++ message)
  sha256 (block.map (· ^^^ 0x5c) ++ inner.toList)

/-- Whether `tag` is the tag of `message` under `key`. A tag of another length
never is. -/
def verifies (key message tag : Bytes) : Bool :=
  (hmacSha256 key message).toList == tag

end OffchainSeal.Digest
