import OffchainSeal.Bytes.Basic

/-!
# Block padding

A text is filled up to whole blocks with one to sixteen bytes that each hold
their number. Removal looks at the last byte alone: it may name any number of
bytes from one up to the whole text, and the bytes it takes are not compared.
-/

namespace OffchainSeal.Cipher

/-- The number of bytes in a block. -/
def blockSize : Nat := 16

/-- The last byte of a padded text names `padLength` bytes of `length`, which
cannot be. -/
structure PaddingFault where
  padLength : Nat
  length : Nat
  deriving DecidableEq, Repr

/-- Fills up to whole blocks; a text of whole blocks gets one more. -/
def pad (text : Bytes) : Bytes :=
  let n := blockSize - text.length % blockSize
  text ++ List.replicate n (UInt8.ofNat n)

/-- Removes as many bytes as the last one says. -/
def unpad (text : Bytes) : Except PaddingFault Bytes :=
  let n := (text.getLast?.getD 0).toNat
  if n = 0 ∨ text.length < n then .error ⟨n, text.length⟩
  else .ok (text.take (text.length - n))

end OffchainSeal.Cipher
