import OffchainSeal.Proofs.Cipher.Chaining

/-!
# Shared leading blocks

Under one key and one vector two cipher texts begin with the same blocks for as long as the
padded texts do, and no longer: a cipher block depends on the block under it and on the cipher
block before, and is determined by nothing else.

* `le_sharedLength_iff`, `le_sharedBlocks_iff`: the number of shared items and of shared blocks.
* `block_ne`: the blocks behind the shared ones.
* `sharedLength_chain`: chaining keeps it.
* `sharedBlocks_encrypt`, `encrypt_injective`: cipher texts against padded texts.
-/

namespace OffchainSeal.Cipher

/-! ## Shared items -/

section Items

variable {α : Type} [DecidableEq α]

/-- The number of items with which both lists begin. -/
def sharedLength : List α → List α → ℕ
  | a :: as, b :: bs => if a = b then sharedLength as bs + 1 else 0
  | _, _ => 0

/-- It is the greatest number of leading items that both have and that are the same. -/
theorem le_sharedLength_iff {n : ℕ} {as bs : List α} : n ≤ sharedLength as bs ↔
    n ≤ as.length ∧ n ≤ bs.length ∧ as.take n = bs.take n := by
  induction as generalizing n bs with
  | nil =>
    rw [sharedLength]
    · cases n <;> simp
    · simp
  | cons a as ih =>
    cases bs with
    | nil =>
      rw [sharedLength]
      · cases n <;> simp
      · simp
    | cons b bs =>
      cases n with
      | zero => simp
      | succ n =>
        rw [sharedLength, List.length_cons, List.length_cons, List.take_succ_cons,
          List.take_succ_cons, List.cons.injEq]
        split_ifs with h
        · rw [Nat.succ_le_succ_iff, Nat.succ_le_succ_iff, Nat.succ_le_succ_iff, ih]
          simp [h]
        · simp [h]

end Items

/-! ## Chaining -/

/-- Two texts chained from one block on share as many leading blocks as before: while their
blocks are the same they go on from one cipher block, and where the blocks differ the cipher
blocks do. -/
theorem sharedLength_chain {encrypt : Block → Block} (h : Function.Injective encrypt)
    (previous : Block) (as bs : List Block) :
    sharedLength (chain encrypt previous as) (chain encrypt previous bs) = sharedLength as bs := by
  induction as generalizing previous bs with
  | nil => rfl
  | cons a as ih =>
    cases bs with
    | nil => rfl
    | cons b bs =>
      rw [chain, chain, sharedLength, sharedLength]
      by_cases hab : a = b
      · rw [hab, if_pos rfl, if_pos rfl, ih]
      · have hne : encrypt (Aes256.add a previous) ≠ encrypt (Aes256.add b previous) := by
          intro e
          apply hab
          rw [← Aes256.add_add a previous, h e, Aes256.add_add]
        rw [if_neg hab, if_neg hne]

/-! ## Byte strings -/

theorem take_unblocks (bs : List Block) (n : ℕ) :
    (unblocks bs).take (16 * n) = unblocks (bs.take n) := by
  have hlen : (unblocks (bs.take n)).length = 16 * min n bs.length := by
    rw [length_unblocks, List.length_take]
    rfl
  have happend : unblocks bs = unblocks (bs.take n) ++ unblocks (bs.drop n) := by
    unfold unblocks
    rw [← List.flatMap_append, List.take_append_drop]
  rcases Nat.le_total n bs.length with hn | hn
  · rw [happend]
    exact List.take_left' (by rw [hlen, Nat.min_eq_left hn])
  · rw [List.take_of_length_le hn, List.take_of_length_le]
    rw [length_unblocks]
    exact Nat.mul_le_mul_left 16 hn

theorem unblocks_injective : Function.Injective unblocks := by
  intro as bs h
  rw [← blocks_unblocks as, h, blocks_unblocks]

/-- The number of whole blocks with which both byte strings begin. -/
def sharedBlocks (x y : Bytes) : ℕ :=
  sharedLength (blocks x) (blocks y)

/-- Of byte strings of whole blocks it is the greatest number of leading blocks that both
have and that are the same. -/
theorem le_sharedBlocks_iff {x y : Bytes} (hx : x.length % blockSize = 0)
    (hy : y.length % blockSize = 0) {n : ℕ} : n ≤ sharedBlocks x y ↔
      16 * n ≤ x.length ∧ 16 * n ≤ y.length ∧ x.take (16 * n) = y.take (16 * n) := by
  have hlen : ∀ {z : Bytes}, z.length % blockSize = 0 →
      (n ≤ (blocks z).length ↔ 16 * n ≤ z.length) := by
    intro z hz
    rw [← length_blocks hz]
    exact (Nat.mul_le_mul_left_iff (by decide)).symm
  have htake : ∀ {z : Bytes}, z.length % blockSize = 0 →
      z.take (16 * n) = unblocks ((blocks z).take n) := by
    intro z hz
    rw [← take_unblocks, unblocks_blocks hz]
  unfold sharedBlocks
  rw [le_sharedLength_iff, hlen hx, hlen hy, htake hx, htake hy, unblocks_injective.eq_iff]

/-- Behind the shared blocks the next ones, where both have one, are different. -/
theorem block_ne {x y : Bytes} (hx : x.length % blockSize = 0) (hy : y.length % blockSize = 0)
    (hx' : 16 * sharedBlocks x y < x.length) (hy' : 16 * sharedBlocks x y < y.length) :
    (x.drop (16 * sharedBlocks x y)).take 16 ≠ (y.drop (16 * sharedBlocks x y)).take 16 := by
  intro hblock
  obtain ⟨-, -, hshared⟩ := (le_sharedBlocks_iff hx hy).mp le_rfl
  have hmore : sharedBlocks x y + 1 ≤ sharedBlocks x y := by
    unfold blockSize at hx hy
    refine (le_sharedBlocks_iff hx hy).mpr ⟨by omega, by omega, ?_⟩
    rw [Nat.mul_succ, List.take_add, List.take_add, hshared, hblock]
  omega

/-! ## Cipher texts -/

variable (key : CipherKey) (iv : Block) (p q : Bytes)

theorem length_encrypt_eq : (encrypt key iv p).length = (pad p).length := by
  rw [length_encrypt, length_pad]

/-- The cipher texts of two texts share as many leading blocks as the padded texts. -/
theorem sharedBlocks_encrypt :
    sharedBlocks (encrypt key iv p) (encrypt key iv q) = sharedBlocks (pad p) (pad q) := by
  have hinjective : Function.Injective (Aes256.encryptWith (Aes256.roundKeys key)) :=
    Function.LeftInverse.injective (Aes256.decryptWith_encryptWith _)
  unfold sharedBlocks encrypt
  rw [blocks_unblocks, blocks_unblocks, sharedLength_chain hinjective]

theorem encrypt_injective : Function.Injective (encrypt key iv) := by
  intro p q h
  have hp := decrypt_encrypt key iv p
  rw [h, decrypt_encrypt, Except.ok.injEq] at hp
  exact hp.symm

end OffchainSeal.Cipher
