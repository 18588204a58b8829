import OffchainSeal.Cipher.Aes256
import OffchainSeal.Cipher.Padding

/-!
# AES-256 in cipher block chaining

Each block of the padded text is added to the cipher block before it, the first
to the initial vector, and then encrypted.
-/

namespace OffchainSeal.Cipher

/-- Why a cipher text cannot be decrypted. -/
inductive CbcFault where
  /-- The length is zero or no multiple of the block size. -/
  | misaligned (length : Nat)
  /-- The cipher finds a block that is not whole. -/
  | partialBlock
  /-- The last byte of the decrypted text names an impossible padding. -/
  | padding (fault : PaddingFault)
  deriving DecidableEq, Repr

/-- The blocks of a byte string. -/
def blocks (bs : Bytes) : List Block :=
  (Bytes.chunks blockSize bs).map (Bytes.toVector 16)

/-- The bytes of a list of blocks. -/
def unblocks (bs : List Block) : Bytes :=
  bs.flatMap Vector.toList

/-- Chains `encrypt` over the blocks, from the cipher block `previous` on. -/
def chain (encrypt : Block → Block) (previous : Block) : List Block → List Block
  | [] => []
  | b :: bs =>
    let c := encrypt (Aes256.add b previous)
    c :: chain encrypt c bs

/-- Undoes `chain`, with `decrypt` for single blocks. -/
def unchain (decrypt : Block → Block) (previous : Block) : List Block → List Block
  | [] => []
  | c :: cs => Aes256.add (decrypt c) previous :: unchain decrypt c cs

/-- Pads and encrypts. -/
def encrypt (key : CipherKey) (iv : Block) (text : Bytes) : Bytes :=
  unblocks (chain (Aes256.encryptWith (Aes256.roundKeys key)) iv (blocks (pad text)))

/-- Decrypts whole blocks without looking at the padding. -/
def decryptBlocks (key : CipherKey) (iv : Block) (cipherText : Bytes) : Bytes :=
  unblocks (unchain (Aes256.decryptWith (Aes256.roundKeys key)) iv (blocks cipherText))

/-- What the cipher makes of a cipher text: nothing, unless all its blocks are whole. -/
def decryptWhole? (key : CipherKey) (iv : Block) (cipherText : Bytes) : Option Bytes :=
  if cipherText.length % blockSize = 0 then some (decryptBlocks key iv cipherText) else none

/-- Decrypts and removes the padding. -/
def decrypt (key : CipherKey) (iv : Block) (cipherText : Bytes) : Except CbcFault Bytes :=
  if cipherText.length = 0 ∨ cipherText.length % blockSize ≠ 0 then
    .error (.misaligned cipherText.length)
  else
    match decryptWhole? key iv cipherText with
    | none => .error .partialBlock
    | some text => (unpad text).mapError .padding

end OffchainSeal.Cipher
