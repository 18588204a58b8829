import OffchainSeal.Proofs.Curve.Primes

/-!
# The base field as a field

`toZMod` reads an element of the base field as a residue; it is a bijection that
respects the operations.

* `toZMod_inverse`: the power that stands for the inverse is the inverse.
* `equation_x_ne_zero`, `cube_ne_neg_seven`: 7 is no square and -7 no cube, so no point
  of the curve lies on an axis.
-/

namespace OffchainSeal.Curve

instance fact_prime : Fact fieldPrime.Prime := ⟨prime_fieldPrime⟩

/-- The residues modulo the field prime. -/
abbrev Residue := ZMod fieldPrime

namespace FieldElement

/-- The residue of an element. -/
def toZMod (a : FieldElement) : Residue :=
  (a.val : ℕ)

theorem toZMod_injective : Function.Injective toZMod := by
  intro a b h
  unfold toZMod at h
  rw [ZMod.natCast_eq_natCast_iff', Nat.mod_eq_of_lt a.isLt, Nat.mod_eq_of_lt b.isLt] at h
  exact Fin.ext h

@[simp] theorem toZMod_zero : toZMod 0 = 0 := by
  unfold toZMod
  rw [show (0 : FieldElement).val = 0 from rfl, Nat.cast_zero]

@[simp] theorem toZMod_ofNat (n : ℕ) : toZMod (Fin.ofNat fieldPrime n) = n := by
  unfold toZMod
  rw [show (Fin.ofNat fieldPrime n).val = n % fieldPrime from rfl, ZMod.natCast_mod]

@[simp] theorem toZMod_add (a b : FieldElement) : toZMod (a + b) = toZMod a + toZMod b := by
  unfold toZMod
  rw [Fin.val_add, ZMod.natCast_mod, Nat.cast_add]

@[simp] theorem toZMod_mul (a b : FieldElement) : toZMod (a * b) = toZMod a * toZMod b := by
  unfold toZMod
  rw [Fin.val_mul, ZMod.natCast_mod, Nat.cast_mul]

@[simp] theorem toZMod_sub (a b : FieldElement) : toZMod (a - b) = toZMod a - toZMod b := by
  unfold toZMod
  rw [Fin.sub_def]
  show (((fieldPrime - b.val + a.val) % fieldPrime : ℕ) : Residue) = _
  rw [ZMod.natCast_mod, Nat.cast_add, Nat.cast_sub b.isLt.le, CharP.cast_eq_zero]
  ring

theorem toZMod_one : toZMod 1 = 1 := by
  rw [show (1 : FieldElement) = Fin.ofNat fieldPrime 1 from rfl, toZMod_ofNat, Nat.cast_one]

theorem toZMod_pow (a : FieldElement) (n : ℕ) : toZMod (pow a n) = toZMod a ^ n := by
  induction n using Nat.strong_induction_on generalizing a with
  | _ n ih =>
    rw [pow]
    by_cases h₀ : n = 0
    · rw [if_pos h₀, h₀, pow_zero, toZMod_one]
    · rw [if_neg h₀]
      have hhalf := ih (n / 2) (by omega) (a * a)
      rw [toZMod_mul, ← pow_two (toZMod a), ← pow_mul] at hhalf
      dsimp only
      split_ifs with h₁
      · rw [toZMod_mul, hhalf, ← pow_succ', show 2 * (n / 2) + 1 = n by omega]
      · rw [hhalf, show 2 * (n / 2) = n by omega]

/-- The inverse is a power, by Fermat's little theorem. -/
@[simp] theorem toZMod_inverse (a : FieldElement) : toZMod (inverse a) = (toZMod a)⁻¹ := by
  unfold inverse
  rw [toZMod_pow]
  by_cases h : toZMod a = 0
  · rw [h, inv_zero, zero_pow (by norm_num [fieldPrime])]
  · have hone := ZMod.pow_card_sub_one_eq_one h
    apply eq_inv_of_mul_eq_one_left
    rw [← pow_succ, show fieldPrime - 2 + 1 = fieldPrime - 1 by norm_num [fieldPrime], hone]

@[simp] theorem toZMod_div (a b : FieldElement) : toZMod (div a b) = toZMod a / toZMod b := by
  unfold div
  rw [toZMod_mul, toZMod_inverse, div_eq_mul_inv]

end FieldElement

/-! ## Powers that are not one -/

theorem pow_eq_one_of_pow_eq {k : ℕ} {x c : Residue} (hk : k ∣ fieldPrime - 1) (hx : x ^ k = c)
    (hc : c ≠ 0) : c ^ ((fieldPrime - 1) / k) = 1 := by
  have hx₀ : x ≠ 0 := by
    rintro rfl
    rcases Nat.eq_zero_or_pos k with rfl | hk₀
    · rw [Nat.zero_dvd] at hk
      exact absurd hk (by norm_num [fieldPrime])
    · exact hc (hx.symm.trans (zero_pow hk₀.ne'))
  rw [← hx, ← pow_mul, Nat.mul_div_cancel' hk, ZMod.pow_card_sub_one_eq_one hx₀]

theorem cast_pow_ne_one {a n : ℕ} (h : powMod fieldPrime a n ≠ 1) : (a : Residue) ^ n ≠ 1 := by
  intro hone
  rw [← Nat.cast_pow, ← Nat.cast_one, ZMod.natCast_eq_natCast_iff', ← powMod_eq,
    Nat.mod_eq_of_lt prime_fieldPrime.one_lt] at hone
  exact h hone

/-- Seven is no square. -/
theorem square_ne_seven (y : Residue) : y ^ 2 ≠ 7 := by
  intro h
  have hne : ((7 : ℕ) : Residue) ≠ 0 := by
    rw [Ne, ZMod.natCast_eq_zero_iff]
    norm_num [fieldPrime]
  have hdvd : 2 ∣ fieldPrime - 1 := by norm_num [fieldPrime]
  have hpow := pow_eq_one_of_pow_eq hdvd (h.trans (by norm_num)) hne
  exact cast_pow_ne_one (by decide +kernel) hpow

/-- Minus seven is no cube. -/
theorem cube_ne_neg_seven (x : Residue) : x ^ 3 ≠ -7 := by
  intro h
  have hcast : (-7 : Residue) = ((fieldPrime - 7 : ℕ) : Residue) := by
    rw [Nat.cast_sub (by norm_num [fieldPrime]), CharP.cast_eq_zero, zero_sub]
    norm_num
  have hne : ((fieldPrime - 7 : ℕ) : Residue) ≠ 0 := by
    rw [Ne, ZMod.natCast_eq_zero_iff]
    norm_num [fieldPrime]
  have hdvd : 3 ∣ fieldPrime - 1 := by norm_num [fieldPrime]
  have hpow := pow_eq_one_of_pow_eq hdvd (h.trans hcast) hne
  exact cast_pow_ne_one (by decide +kernel) hpow

end OffchainSeal.Curve
