import OffchainSeal.Proofs.Cipher.SharedBlocks
import OffchainSeal.Proofs.Sealing.EnvelopeForms
import OffchainSeal.Proofs.Sealing.Framing

/-!
# A vector that is used again

Two texts that are sealed under one initial vector give envelopes that show how many blocks
the padded texts have in common at their beginning, and nothing behind them.

* `exists_drop_sealWith`, `take_sealWith_blocks`, `block_sealWith`: where the cipher blocks stand
  in an envelope.
* `sealWith_injective`: different texts give different envelopes.
* `vector_reuse_leaks`: what two envelopes of one sender, one recipient and one vector show.
-/

namespace OffchainSeal

open Cipher Digest

section Blocks

variable (secret : SharedSecret) (iv : Block) (text : Bytes)

theorem length_sealWith_eq : (sealWith secret iv text).length = (pad text).length + 48 := by
  show (frame iv (encrypt secret.cipherKey iv text) _).length = _
  rw [length_frame, length_encrypt_eq]

/-- Behind the vector the cipher text follows, and then the tag. -/
theorem exists_drop_sealWith : ∃ tag : Tag, (sealWith secret iv text).drop 16 =
    encrypt secret.cipherKey iv text ++ tag.toList := by
  refine ⟨hmacSha256 secret.tagKey.toList
    (authenticatedData iv (encrypt secret.cipherKey iv text)), ?_⟩
  unfold sealWith frame
  rw [List.append_assoc]
  exact List.drop_left' Vector.length_toList

theorem take_sealWith_blocks {n : ℕ} (h : 16 * n ≤ (pad text).length) :
    (sealWith secret iv text).take (16 + 16 * n) =
      iv.toList ++ (encrypt secret.cipherKey iv text).take (16 * n) := by
  obtain ⟨tag, htag⟩ := exists_drop_sealWith secret iv text
  rw [← length_encrypt_eq secret.cipherKey iv text] at h
  rw [List.take_add, take_sealWith, htag, List.take_append_of_le_length h]

/-- Block `n` of the cipher text, counted from zero. -/
theorem block_sealWith {n : ℕ} (h : 16 * (n + 1) ≤ (pad text).length) :
    ((sealWith secret iv text).drop (16 + 16 * n)).take 16 =
      ((encrypt secret.cipherKey iv text).drop (16 * n)).take 16 := by
  obtain ⟨tag, htag⟩ := exists_drop_sealWith secret iv text
  rw [← length_encrypt_eq secret.cipherKey iv text] at h
  rw [← List.drop_drop, htag, List.drop_append_of_le_length (by omega),
    List.take_append_of_le_length]
  rw [List.length_drop]
  omega

end Blocks

/-- An envelope is of one text only, since its cipher text is. -/
theorem sealWith_injective (secret : SharedSecret) (iv : Block) :
    Function.Injective (sealWith secret iv) := by
  intro p q h
  obtain ⟨-, hcipher, -⟩ := frame_eq_iff.mp h
  exact encrypt_injective secret.cipherKey iv hcipher

/-- Let `m` be the number of blocks with which both padded texts begin. Sealed under one vector
they give envelopes that agree on the vector and on the next `m` blocks. If both texts have
another block then that block of the cipher texts differs. The envelopes are the same only if the
texts are. -/
theorem vector_reuse_leaks (sender : PrivateKey) (recipient : PublicKey) (iv : Block)
    (p q : Bytes) :
    ∃ framedP framedQ m, sealBytesWith sender recipient iv p = .ok framedP ∧
      sealBytesWith sender recipient iv q = .ok framedQ ∧
      (∀ n, n ≤ m ↔ 16 * n ≤ (pad p).length ∧ 16 * n ≤ (pad q).length ∧
        (pad p).take (16 * n) = (pad q).take (16 * n)) ∧
      framedP.length = (pad p).length + 48 ∧ framedQ.length = (pad q).length + 48 ∧
      framedP.take (16 + 16 * m) = framedQ.take (16 + 16 * m) ∧
      (16 * m < (pad p).length → 16 * m < (pad q).length →
        (framedP.drop (16 + 16 * m)).take 16 ≠ (framedQ.drop (16 + 16 * m)).take 16) ∧
      (framedP = framedQ ↔ p = q) := by
  obtain ⟨secret, hs⟩ := SharedSecret.exists_derive? sender recipient
  have hwholeP := encrypt_whole secret.cipherKey iv p
  have hwholeQ := encrypt_whole secret.cipherKey iv q
  have hsame := sharedBlocks_encrypt secret.cipherKey iv p q
  have hpadded : ∀ n, n ≤ sharedBlocks (pad p) (pad q) ↔ _ :=
    fun n => le_sharedBlocks_iff (pad_whole p) (pad_whole q)
  refine ⟨sealWith secret iv p, sealWith secret iv q, sharedBlocks (pad p) (pad q),
    sealBytesWith_of_secret hs iv p, sealBytesWith_of_secret hs iv q, hpadded,
    length_sealWith_eq secret iv p, length_sealWith_eq secret iv q, ?_, ?_,
    (sealWith_injective secret iv).eq_iff⟩
  · obtain ⟨hp, hq, -⟩ := (hpadded _).mp le_rfl
    obtain ⟨-, -, hshared⟩ := (le_sharedBlocks_iff hwholeP hwholeQ).mp le_rfl
    rw [hsame] at hshared
    rw [take_sealWith_blocks secret iv p hp, take_sealWith_blocks secret iv q hq, hshared]
  · intro hp hq
    have hne := block_ne hwholeP hwholeQ (by rwa [hsame, length_encrypt_eq])
      (by rwa [hsame, length_encrypt_eq])
    have hpadP : (pad p).length % 16 = 0 := pad_whole p
    have hpadQ : (pad q).length % 16 = 0 := pad_whole q
    rw [hsame] at hne
    rw [block_sealWith secret iv p (by omega), block_sealWith secret iv q (by omega)]
    exact hne

end OffchainSeal
