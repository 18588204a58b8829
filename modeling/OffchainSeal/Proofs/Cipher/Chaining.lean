import OffchainSeal.Cipher.Cbc
import OffchainSeal.Proofs.Cipher.Aes256
import OffchainSeal.Proofs.Result

/-!
# Blocks, padding and chaining

* `blocks_unblocks`, `unblocks_blocks`: byte strings of whole blocks are lists of
  blocks.
* `unpad_eq_ok_iff`, `unpad_eq_error_iff`, `unpad_pad`: removal of the padding.
* `unchain_chain`, `chain_unchain`: the chaining is undone, for any two block functions of
  which one undoes the other.
* `encryptBlocks_eq_iff`: the chained cipher is a bijection of the byte strings of whole
  blocks.
* `decrypt_encrypt`: decryption undoes encryption.
* `decrypt_of_whole`: a cipher text of one or more whole blocks is decrypted, and
  fails at its padding only.
-/

namespace OffchainSeal

/-! ## Pieces of a byte string -/

namespace Bytes

theorem chunks_nil (n : ℕ) : chunks n [] = [] := by
  rw [chunks, if_pos (.inl rfl)]

theorem chunks_append {n : ℕ} {a b : Bytes} (h : a.length = n) (hn : n ≠ 0) :
    chunks n (a ++ b) = a :: chunks n b := by
  have hne : ¬ (a ++ b = [] ∨ n = 0) := by
    rintro (e | e)
    · rw [(List.append_eq_nil_iff.mp e).1] at h
      exact hn h.symm
    · exact hn e
  rw [chunks, if_neg hne, List.take_left' h, List.drop_left' h]

/-- A vector is found again at the front of a byte string. -/
theorem toVector_append {n : ℕ} (v : Vector UInt8 n) (rest : Bytes) :
    toVector n (v.toList ++ rest) = v := by
  apply Vector.ext
  intro i hi
  have hlen : i < v.toList.length := by rw [Vector.length_toList]; exact hi
  simp [toVector, List.getElem?_append_left hlen, hi]

theorem toVector_toList {n : ℕ} (v : Vector UInt8 n) : toVector n v.toList = v := by
  have := toVector_append v []
  rwa [List.append_nil] at this

end Bytes

namespace Cipher

/-! ## Blocks -/

theorem length_block (b : Block) : b.toList.length = blockSize :=
  Vector.length_toList

theorem length_unblocks (bs : List Block) : (unblocks bs).length = blockSize * bs.length := by
  induction bs with
  | nil => rfl
  | cons b bs ih =>
    unfold unblocks at ih ⊢
    rw [List.flatMap_cons, List.length_append, ih, length_block, List.length_cons, Nat.mul_succ,
      Nat.add_comm]

theorem blocks_unblocks (bs : List Block) : blocks (unblocks bs) = bs := by
  unfold blocks unblocks
  induction bs with
  | nil => rw [List.flatMap_nil, Bytes.chunks_nil, List.map_nil]
  | cons b bs ih =>
    rw [List.flatMap_cons, Bytes.chunks_append (length_block b) (by decide), List.map_cons, ih,
      Bytes.toVector_toList]

/-- The bytes of the blocks of a byte string of `n` whole blocks. -/
theorem unblocks_blocks_of_length {n : ℕ} {bs : Bytes} (h : bs.length = blockSize * n) :
    unblocks (blocks bs) = bs := by
  induction n generalizing bs with
  | zero =>
    rw [List.eq_nil_of_length_eq_zero h, blocks, Bytes.chunks_nil]
    rfl
  | succ n ih =>
    have htake : (bs.take blockSize).length = blockSize := by
      rw [List.length_take, h, Nat.mul_succ]
      omega
    have hdrop : (bs.drop blockSize).length = blockSize * n := by
      rw [List.length_drop, h, Nat.mul_succ]
      omega
    have hblocks : blocks bs =
        Bytes.toVector 16 (bs.take blockSize) :: blocks (bs.drop blockSize) := by
      conv_lhs => rw [← List.take_append_drop blockSize bs]
      unfold blocks
      rw [Bytes.chunks_append htake (by decide), List.map_cons]
    have hfirst : (Bytes.toVector 16 (bs.take blockSize)).toList = bs.take blockSize :=
      Bytes.toList_toVector htake
    have ih' := ih hdrop
    unfold unblocks at ih' ⊢
    rw [hblocks, List.flatMap_cons, hfirst, ih', List.take_append_drop]

theorem unblocks_blocks {bs : Bytes} (h : bs.length % blockSize = 0) :
    unblocks (blocks bs) = bs :=
  unblocks_blocks_of_length (Nat.mul_div_cancel' (Nat.dvd_of_mod_eq_zero h)).symm

theorem length_blocks {bs : Bytes} (h : bs.length % blockSize = 0) :
    blockSize * (blocks bs).length = bs.length := by
  rw [← length_unblocks, unblocks_blocks h]

/-! ## Padding -/

/-- The number of bytes that the last byte names. -/
def padLength (text : Bytes) : ℕ :=
  (text.getLast?.getD 0).toNat

theorem unpad_eq (text : Bytes) :
    unpad text = if padLength text = 0 ∨ text.length < padLength text
      then .error ⟨padLength text, text.length⟩
      else .ok (text.take (text.length - padLength text)) := rfl

theorem unpad_eq_ok_iff {text out : Bytes} :
    unpad text = .ok out ↔ padLength text ≠ 0 ∧ padLength text ≤ text.length ∧
      out = text.take (text.length - padLength text) := by
  rw [unpad_eq]
  split_ifs with h
  · constructor
    · intro e
      cases e
    · rintro ⟨h₀, h₁, -⟩
      omega
  · rw [Except.ok.injEq, eq_comm]
    constructor
    · intro e
      exact ⟨by omega, by omega, e⟩
    · rintro ⟨-, -, e⟩
      exact e

theorem unpad_eq_error_iff {text : Bytes} {fault : PaddingFault} :
    unpad text = .error fault ↔ (padLength text = 0 ∨ text.length < padLength text) ∧
      fault = ⟨padLength text, text.length⟩ := by
  rw [unpad_eq]
  split_ifs with h
  · rw [Except.error.injEq, eq_comm]
    exact ⟨fun e => ⟨h, e⟩, fun e => e.2⟩
  · constructor
    · intro e
      cases e
    · rintro ⟨h', -⟩
      exact absurd h' h

/-- The number of bytes that `pad` appends. -/
def missing (text : Bytes) : ℕ :=
  blockSize - text.length % blockSize

theorem pad_eq (text : Bytes) :
    pad text = text ++ List.replicate (missing text) (UInt8.ofNat (missing text)) := rfl

theorem missing_range (text : Bytes) : 0 < missing text ∧ missing text ≤ blockSize := by
  have := Nat.mod_lt text.length (show 0 < blockSize by decide)
  unfold missing
  omega

theorem length_pad (text : Bytes) : (pad text).length = text.length + missing text := by
  rw [pad_eq, List.length_append, List.length_replicate]

theorem pad_whole (text : Bytes) : (pad text).length % blockSize = 0 := by
  rw [length_pad]
  unfold missing blockSize
  omega

/-- The number of missing bytes fits into each of them. -/
theorem toNat_ofNat_missing (text : Bytes) :
    (UInt8.ofNat (missing text)).toNat = missing text := by
  have hr := missing_range text
  have hsize : blockSize = 16 := rfl
  rw [UInt8.toNat_ofNat']
  exact Nat.mod_eq_of_lt (by omega)

theorem padLength_pad (text : Bytes) : padLength (pad text) = missing text := by
  have hr := missing_range text
  unfold padLength
  rw [pad_eq, List.getLast?_append, List.getLast?_replicate, if_neg (by omega)]
  exact toNat_ofNat_missing text

/-- What is appended is removed. -/
theorem unpad_pad (text : Bytes) : unpad (pad text) = .ok text := by
  have hr := missing_range text
  rw [unpad_eq_ok_iff, padLength_pad, length_pad]
  refine ⟨by omega, by omega, ?_⟩
  rw [pad_eq, Nat.add_sub_cancel]
  exact (List.take_left' rfl).symm

/-! ## Chaining -/

theorem length_chain (encrypt : Block → Block) (previous : Block) (bs : List Block) :
    (chain encrypt previous bs).length = bs.length := by
  induction bs generalizing previous with
  | nil => rfl
  | cons b bs ih => rw [chain, List.length_cons, ih, List.length_cons]

theorem length_unchain (decrypt : Block → Block) (previous : Block) (cs : List Block) :
    (unchain decrypt previous cs).length = cs.length := by
  induction cs generalizing previous with
  | nil => rfl
  | cons c cs ih => rw [unchain, List.length_cons, ih, List.length_cons]

/-- Chaining is undone if the block function is. -/
theorem unchain_chain {encrypt decrypt : Block → Block} (h : ∀ b, decrypt (encrypt b) = b)
    (previous : Block) (bs : List Block) :
    unchain decrypt previous (chain encrypt previous bs) = bs := by
  induction bs generalizing previous with
  | nil => rfl
  | cons b bs ih =>
    rw [chain, unchain, h, Aes256.add_add, ih]

/-- And what undoes it is undone by it. -/
theorem chain_unchain {encrypt decrypt : Block → Block} (h : ∀ b, encrypt (decrypt b) = b)
    (previous : Block) (cs : List Block) :
    chain encrypt previous (unchain decrypt previous cs) = cs := by
  induction cs generalizing previous with
  | nil => rfl
  | cons c cs ih =>
    rw [unchain, chain, Aes256.add_add, h, ih]

theorem length_decryptBlocks {key : CipherKey} {iv : Block} {cipherText : Bytes}
    (h : cipherText.length % blockSize = 0) :
    (decryptBlocks key iv cipherText).length = cipherText.length := by
  unfold decryptBlocks
  rw [length_unblocks, length_unchain, length_blocks h]

/-- Encrypts whole blocks without padding them. -/
def encryptBlocks (key : CipherKey) (iv : Block) (text : Bytes) : Bytes :=
  unblocks (chain (Aes256.encryptWith (Aes256.roundKeys key)) iv (blocks text))

theorem encrypt_eq (key : CipherKey) (iv : Block) (text : Bytes) :
    encrypt key iv text = encryptBlocks key iv (pad text) := rfl

theorem decryptBlocks_encryptBlocks {key : CipherKey} {iv : Block} {text : Bytes}
    (h : text.length % blockSize = 0) :
    decryptBlocks key iv (encryptBlocks key iv text) = text := by
  unfold decryptBlocks encryptBlocks
  rw [blocks_unblocks, unchain_chain (Aes256.decryptWith_encryptWith _), unblocks_blocks h]

theorem encryptBlocks_decryptBlocks {key : CipherKey} {iv : Block} {cipherText : Bytes}
    (h : cipherText.length % blockSize = 0) :
    encryptBlocks key iv (decryptBlocks key iv cipherText) = cipherText := by
  unfold decryptBlocks encryptBlocks
  rw [blocks_unblocks, chain_unchain (Aes256.encryptWith_decryptWith _), unblocks_blocks h]

/-- On whole blocks the chained cipher and its inverse are inverse to each other. -/
theorem encryptBlocks_eq_iff {key : CipherKey} {iv : Block} {text cipherText : Bytes}
    (htext : text.length % blockSize = 0) (hcipher : cipherText.length % blockSize = 0) :
    encryptBlocks key iv text = cipherText ↔ text = decryptBlocks key iv cipherText := by
  constructor
  · rintro rfl
    exact (decryptBlocks_encryptBlocks htext).symm
  · rintro rfl
    exact encryptBlocks_decryptBlocks hcipher

theorem length_encrypt (key : CipherKey) (iv : Block) (text : Bytes) :
    (encrypt key iv text).length = text.length + missing text := by
  unfold encrypt
  rw [length_unblocks, length_chain, length_blocks (pad_whole text), length_pad]

/-- A cipher text is one or more whole blocks. -/
theorem length_encrypt_pos (key : CipherKey) (iv : Block) (text : Bytes) :
    0 < (encrypt key iv text).length := by
  have hr := missing_range text
  rw [length_encrypt]
  omega

theorem encrypt_whole (key : CipherKey) (iv : Block) (text : Bytes) :
    (encrypt key iv text).length % blockSize = 0 := by
  rw [length_encrypt, ← length_pad, pad_whole]

/-- Of one or more whole blocks only the padding can be wrong. -/
theorem decrypt_of_whole {key : CipherKey} {iv : Block} {cipherText : Bytes}
    (hne : 0 < cipherText.length) (h : cipherText.length % blockSize = 0) :
    decrypt key iv cipherText = (unpad (decryptBlocks key iv cipherText)).mapError .padding := by
  unfold decrypt decryptWhole?
  rw [if_neg (by omega), if_pos h]

/-- Decryption gives the text back, of any length and under any key and vector. -/
theorem decrypt_encrypt (key : CipherKey) (iv : Block) (text : Bytes) :
    decrypt key iv (encrypt key iv text) = .ok text := by
  have hblocks : decryptBlocks key iv (encrypt key iv text) = pad text := by
    rw [encrypt_eq, decryptBlocks_encryptBlocks (pad_whole text)]
  rw [decrypt_of_whole (length_encrypt_pos key iv text) (encrypt_whole key iv text), hblocks,
    unpad_pad]
  rfl

end Cipher
end OffchainSeal
