import OffchainSeal.Digest.Sha2
import OffchainSeal.Digest.Ripemd160

/-!
# Checksums of key strings

Four bytes that guard a key string against typing errors.
-/

namespace OffchainSeal.Digest

/-- The first four bytes of the SHA-256 digest of the SHA-256 digest. -/
def doubleSha256Checksum (data : Bytes) : Bytes :=
  (sha256 (sha256 data).toList).toList.take 4

/-- The first four bytes of the RIPEMD-160 digest of the data and `suffix`. The
suffix ties the checksum to a kind of key and is no part of the string. -/
def ripemd160Checksum (data suffix : Bytes) : Bytes :=
  (ripemd160 (data ++ suffix)).toList.take 4

end OffchainSeal.Digest
