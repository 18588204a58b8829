import Mathlib
import OffchainSeal.Cipher.ByteField

/-!
# The byte field

* `mul_xor_left`: the product is additive in its first argument.
* `toNat_mul`: the product as one of natural numbers, on which the kernel computes fast.
* `inverse_inverse`: inversion undoes itself, as is checked for each of the 256 bytes.
-/

namespace OffchainSeal.Cipher.ByteField

/-- What holds of the numbers below 256 as bytes holds of all bytes. -/
theorem forall_byte {P : UInt8 → Prop} (h : ∀ n < 256, P (UInt8.ofNat n)) (b : UInt8) : P b := by
  have := h b.toNat (UInt8.toNat_lt b)
  rwa [UInt8.ofNat_toNat] at this

/-! ## Additivity -/

theorem and_high (b : UInt8) : b &&& 0x80 = 0 ∨ b &&& 0x80 = 0x80 := by
  -- the number of the high bit is zero or one
  have h : (b &&& 0x80).toNat = 2 ^ 7 * (b.toNat.testBit 7).toNat := by
    rw [UInt8.toNat_and]
    exact (Nat.and_two_pow b.toNat 7).trans (Nat.mul_comm _ _)
  rcases hb : b.toNat.testBit 7 with _ | _
  · exact .inl (UInt8.toNat_inj.mp (by rw [h, hb]; rfl))
  · exact .inr (UInt8.toNat_inj.mp (by rw [h, hb]; rfl))

theorem and_xor_high (a b : UInt8) : (a ^^^ b) &&& 0x80 = (a &&& 0x80) ^^^ (b &&& 0x80) := by
  apply UInt8.toNat_inj.mp
  rw [UInt8.toNat_and, UInt8.toNat_xor, UInt8.toNat_xor, UInt8.toNat_and, UInt8.toNat_and,
    Nat.and_xor_distrib_right]

theorem timesX_xor (a b : UInt8) : timesX (a ^^^ b) = timesX a ^^^ timesX b := by
  unfold timesX
  rw [and_xor_high, UInt8.shiftLeft_xor]
  have swap : ∀ x y c : UInt8, x ^^^ c ^^^ y = x ^^^ y ^^^ c := by
    intro x y c
    rw [UInt8.xor_assoc, UInt8.xor_comm c, UInt8.xor_assoc]
  -- the reduction is added as often as a high bit is shifted out
  rcases and_high a with ha | ha <;> rcases and_high b with hb | hb <;> rw [ha, hb]
  · rw [if_pos rfl, if_pos (by decide), if_pos rfl]
  · rw [if_pos rfl, if_neg (by decide), if_neg (by decide), UInt8.xor_assoc]
  · rw [if_neg (by decide), if_neg (by decide), if_pos rfl, swap]
  · rw [if_pos (by decide), if_neg (by decide), if_neg (by decide), ← UInt8.xor_assoc, swap,
      UInt8.xor_assoc (a <<< 1), UInt8.xor_self, UInt8.xor_zero]

theorem mulLow_xor (n : ℕ) (a b c : UInt8) :
    mulLow n (a ^^^ b) c = mulLow n a c ^^^ mulLow n b c := by
  induction n generalizing a b c with
  | zero => exact UInt8.xor_self.symm
  | succ n ih =>
    have cross : ∀ x y u v : UInt8, x ^^^ y ^^^ (u ^^^ v) = x ^^^ u ^^^ (y ^^^ v) := by
      intro x y u v
      rw [UInt8.xor_assoc, UInt8.xor_assoc, ← UInt8.xor_assoc y, UInt8.xor_comm y,
        UInt8.xor_assoc u]
    unfold mulLow
    rw [timesX_xor, ih]
    split_ifs
    · rw [cross]
    · simp only [UInt8.zero_xor]

/-- The product is additive in its first argument. -/
theorem mul_xor_left (a b c : UInt8) : mul (a ^^^ b) c = mul a c ^^^ mul b c :=
  mulLow_xor 8 a b c

/-! ## On numbers -/

/-- The product with `x`, on numbers. -/
def timesXNat (b : ℕ) : ℕ :=
  (2 * b) ^^^ (b / 128 * 0x11b)

/-- The product of `a` with the lowest `n` bits of `b`, on numbers. -/
def mulLowNat : ℕ → ℕ → ℕ → ℕ
  | 0, _, _ => 0
  | n + 1, a, b => (b % 2 * a) ^^^ mulLowNat n (timesXNat a) (b / 2)

/-- The product, on numbers. -/
def mulNat (a b : ℕ) : ℕ :=
  mulLowNat 8 a b

/-- The product of squares, on numbers. -/
def squaresNat : ℕ → ℕ → ℕ
  | 0, _ => 1
  | n + 1, b => mulNat (mulNat b b) (squaresNat n (mulNat b b))

theorem toNat_timesX (b : UInt8) : (timesX b).toNat = timesXNat b.toNat := by
  revert b
  exact forall_byte (by decide +kernel)

theorem toNat_shiftRight_one (b : UInt8) : (b >>> 1).toNat = b.toNat / 2 := by
  rw [UInt8.toNat_shiftRight]
  exact Nat.shiftRight_one b.toNat

theorem and_one_eq_one_iff (b : UInt8) : b &&& 1 = 1 ↔ b.toNat % 2 = 1 := by
  rw [← UInt8.toNat_inj, UInt8.toNat_and]
  show b.toNat &&& 1 = 1 ↔ b.toNat % 2 = 1
  rw [Nat.and_one_is_mod]

theorem toNat_mulLow (n : ℕ) (a b : UInt8) :
    (mulLow n a b).toNat = mulLowNat n a.toNat b.toNat := by
  induction n generalizing a b with
  | zero => rfl
  | succ n ih =>
    unfold mulLow mulLowNat
    rw [UInt8.toNat_xor, ih, toNat_timesX, toNat_shiftRight_one]
    congr 1
    by_cases h : b.toNat % 2 = 1
    · rw [if_pos ((and_one_eq_one_iff b).mpr h), h, one_mul]
    · rw [if_neg (fun hb => h ((and_one_eq_one_iff b).mp hb)), Nat.mod_two_ne_one.mp h, zero_mul]
      rfl

theorem toNat_mul (a b : UInt8) : (mul a b).toNat = mulNat a.toNat b.toNat :=
  toNat_mulLow 8 a b

theorem toNat_squares (n : ℕ) (b : UInt8) : (squares n b).toNat = squaresNat n b.toNat := by
  induction n generalizing b with
  | zero => rfl
  | succ n ih =>
    unfold squares squaresNat
    rw [toNat_mul, ih, toNat_mul]

/-! ## Inversion -/

theorem squaresNat_squaresNat : ∀ n < 256, squaresNat 7 (squaresNat 7 n) = n := by
  decide +kernel

/-- Inversion undoes itself. -/
theorem inverse_inverse (b : UInt8) : inverse (inverse b) = b := by
  apply UInt8.toNat_inj.mp
  unfold inverse
  rw [toNat_squares, toNat_squares]
  exact squaresNat_squaresNat b.toNat (UInt8.toNat_lt b)

end OffchainSeal.Cipher.ByteField
