import OffchainSeal.Key.Public
import OffchainSeal.Proofs.Curve.Group

/-!
# Square roots and compressed points

The root that is tried is the power `(p + 1) / 4`, which is a root of every square
since `p` is 3 modulo 4. The other root differs from it in parity, so the first
coordinate and the parity of the second determine a point.

* `exists_sqrt?`: every square has a root, and it is one of the two.
* `lift?_eq_some_iff`: the point that is found has the given coordinate and parity, and
  every point is found.
-/

namespace OffchainSeal

namespace Curve.FieldElement

@[simp] theorem toZMod_neg (a : FieldElement) : toZMod (-a) = -toZMod a := by
  unfold toZMod
  rw [Fin.neg_def]
  show (((fieldPrime - a.val) % fieldPrime : ℕ) : Residue) = _
  rw [ZMod.natCast_mod, Nat.cast_sub a.isLt.le, CharP.cast_eq_zero, zero_sub]

/-- Two elements with the same square are equal or opposite. -/
theorem eq_or_eq_neg_of_mul_self {a b : FieldElement} (h : a * a = b * b) : a = b ∨ a = -b := by
  have hsq := congrArg toZMod h
  rw [toZMod_mul, toZMod_mul] at hsq
  rcases mul_self_eq_mul_self_iff.mp hsq with heq | hneg
  · exact .inl (toZMod_injective heq)
  · refine .inr (toZMod_injective ?_)
    rw [toZMod_neg, hneg]

/-- The power that is tried is a root of every square. -/
theorem exists_sqrt? (y : FieldElement) : ∃ r, sqrt? (y * y) = some r ∧ (r = y ∨ r = -y) := by
  have hroot : pow (y * y) ((fieldPrime + 1) / 4) * pow (y * y) ((fieldPrime + 1) / 4) = y * y := by
    apply toZMod_injective
    rw [toZMod_mul, toZMod_pow, toZMod_mul]
    have hexp : 2 * ((fieldPrime + 1) / 4 + (fieldPrime + 1) / 4) = fieldPrime + 1 := by
      norm_num [fieldPrime]
    rw [← pow_add, ← pow_two, ← pow_mul, hexp, pow_succ, ZMod.pow_card, pow_two]
  refine ⟨_, ?_, eq_or_eq_neg_of_mul_self hroot⟩
  unfold sqrt?
  exact if_pos hroot

/-- Opposite elements differ in parity, since their sum is odd. -/
theorem isOdd_neg {y : FieldElement} (h : y ≠ 0) : (-y).isOdd = !y.isOdd := by
  have hpos : 0 < y.val := Nat.pos_of_ne_zero fun hy => h (Fin.ext hy)
  have hlt : y.val < fieldPrime := y.isLt
  have hodd : fieldPrime % 2 = 1 := by norm_num [fieldPrime]
  have hval : (-y).val = fieldPrime - y.val := by
    rw [Fin.neg_def]
    exact Nat.mod_eq_of_lt (by omega)
  unfold isOdd
  rw [hval, ← decide_not, decide_eq_decide]
  omega

end Curve.FieldElement

open Curve FieldElement

namespace PublicKey

theorem y_ne_zero (p : PublicKey) : p.y ≠ 0 := by
  intro h
  refine Curve.y_ne_zero (onCurve_iff.mp p.onCurve) ?_
  rw [h, toZMod_zero]

/-- The root of the wanted parity, out of the two. -/
theorem isOdd_root {r : FieldElement} (hr : r ≠ 0) (odd : Bool) :
    (if r.isOdd = odd then r else -r).isOdd = odd := by
  split_ifs with h
  · exact h
  · rw [isOdd_neg hr]
    exact Bool.not_eq.mpr h

theorem lift?_of_lt {x : ℕ} (hx : x < fieldPrime) (odd : Bool) :
    lift? x odd = (sqrt? (cubic (Fin.ofNat fieldPrime x))).bind fun r =>
      ofPoint? (.affine (Fin.ofNat fieldPrime x) (if r.isOdd = odd then r else -r)) := by
  unfold lift?
  rw [if_pos hx]
  dsimp only
  cases sqrt? (cubic (Fin.ofNat fieldPrime x)) <;> rfl

theorem ofPoint?_eq_some_iff {x y : FieldElement} {p : PublicKey} :
    ofPoint? (.affine x y) = some p ↔ p.x = x ∧ p.y = y := by
  constructor
  · intro h
    unfold ofPoint? at h
    dsimp only at h
    split_ifs at h
    rw [← Option.some.inj h]
    exact ⟨rfl, rfl⟩
  · rintro ⟨rfl, rfl⟩
    exact dif_pos p.onCurve

/-- The point that is lifted has the given first coordinate and parity, and every key is
lifted from its own. -/
theorem lift?_eq_some_iff {x : ℕ} {odd : Bool} {p : PublicKey} :
    lift? x odd = some p ↔ p.x.val = x ∧ p.y.isOdd = odd := by
  constructor
  · intro h
    by_cases hx : x < fieldPrime
    · rw [lift?_of_lt hx] at h
      obtain ⟨r, hr, hp⟩ := Option.bind_eq_some_iff.mp h
      obtain ⟨hpx, hpy⟩ := ofPoint?_eq_some_iff.mp hp
      have hr₀ : r ≠ 0 := by
        rintro rfl
        refine p.y_ne_zero ?_
        rw [hpy, neg_zero, ite_self]
      refine ⟨?_, ?_⟩
      · rw [hpx]
        exact Nat.mod_eq_of_lt hx
      · rw [hpy]
        exact isOdd_root hr₀ odd
    · unfold lift? at h
      rw [if_neg hx] at h
      cases h
  · rintro ⟨rfl, rfl⟩
    have hx : Fin.ofNat fieldPrime p.x.val = p.x := Fin.ext (Nat.mod_eq_of_lt p.x.isLt)
    obtain ⟨r, hr, hry⟩ := exists_sqrt? p.y
    have hr₀ : r ≠ 0 := by
      rintro rfl
      rcases hry with h | h
      · exact p.y_ne_zero h.symm
      · exact p.y_ne_zero (neg_eq_zero.mp h.symm)
    rw [lift?_of_lt p.x.isLt, hx, ← p.onCurve, hr, Option.bind_some, ofPoint?_eq_some_iff]
    refine ⟨rfl, ?_⟩
    rcases hry with rfl | rfl
    · rw [if_pos rfl]
    · rw [isOdd_neg p.y_ne_zero, if_neg (Bool.not_ne_self _), neg_neg]

end PublicKey
end OffchainSeal
