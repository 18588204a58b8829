import OffchainSeal.Proofs.Curve.Group

/-!
# Multiples of the base point without division

A triple `(X, Y, Z)` with nonzero `Z` stands for the point `(X / Z^2, Y / Z^3)`. On
triples the multiples of the base point take no inverses, so that the multiple by the
group order can be computed in a proof.

* `represents_multiple`: a multiple that comes out with nonzero `Z` is right.
* `groupOrder_nsmul_base`: the group order takes the base point to infinity.
-/

namespace OffchainSeal.Curve

open FieldElement WeierstrassCurve.Affine

/-- Coordinates of a point with a common scale. -/
structure Triple where
  X : FieldElement
  Y : FieldElement
  Z : FieldElement

/-- The triple stands for the finite point `P`. -/
def Represents : Group → Triple → Prop
  | .zero, _ => False
  | .some x y _, t => toZMod t.Z ≠ 0 ∧ toZMod t.X = x * toZMod t.Z ^ 2 ∧
      toZMod t.Y = y * toZMod t.Z ^ 3

namespace Triple

/-- The base point at scale one. -/
def base : Triple :=
  ⟨baseX, baseY, 1⟩

/-- The triple of the doubled point. -/
def double (t : Triple) : Triple :=
  let s := 4 * t.X * t.Y * t.Y
  let m := 3 * t.X * t.X
  let x := m * m - s - s
  ⟨x, m * (s - x) - 8 * t.Y * t.Y * t.Y * t.Y, 2 * t.Y * t.Z⟩

/-- The triple of the sum with the base point; its scale is zero where the first
coordinates agree. -/
def addBase (t : Triple) : Triple :=
  let h := baseX * t.Z * t.Z - t.X
  let r := baseY * t.Z * t.Z * t.Z - t.Y
  let v := t.X * h * h
  let x := r * r - h * h * h - v - v
  ⟨x, r * (v - x) - t.Y * h * h * h, h * t.Z⟩

/-- The multiple of the base point by `n`, which is not zero. -/
def multiple (n : ℕ) : Triple :=
  if n ≤ 1 then base
  else
    let even := (multiple (n / 2)).double
    if n % 2 = 1 then even.addBase else even
termination_by n

end Triple

/-- The base point as an element of the group. -/
def base : Group :=
  .some (toZMod baseX) (toZMod baseY) (nonsingular_iff.mpr (onCurve_iff.mp onCurve_base))

theorem ofGroup_base : ofGroup base = basePoint := by
  show Point.affine (ofZMod (toZMod baseX)) (ofZMod (toZMod baseY)) = basePoint
  rw [ofZMod_toZMod, ofZMod_toZMod]
  rfl

theorem represents_base : Represents base .base := by
  show toZMod 1 ≠ 0 ∧ toZMod baseX = toZMod baseX * toZMod 1 ^ 2 ∧
    toZMod baseY = toZMod baseY * toZMod 1 ^ 3
  rw [toZMod_one, one_pow, one_pow, mul_one, mul_one]
  exact ⟨one_ne_zero, rfl, rfl⟩

/-- Doubling doubles. -/
theorem Represents.double {P : Group} {t : Triple} (h : Represents P t) :
    Represents (2 • P) t.double := by
  cases P with
  | zero => exact h.elim
  | some x y hn =>
    obtain ⟨hz, hX, hY⟩ := h
    have hy₀ : y ≠ 0 := y_ne_zero (nonsingular_iff.mp hn)
    have hy : y ≠ curve.negY x y := by
      rw [negY_eq]
      intro h
      exact hy₀ (by
        have h₂ : 2 * y = 0 := by linear_combination h
        exact (mul_eq_zero.mp h₂).resolve_left two_ne_zero')
    rw [two_nsmul, Point.add_self_of_Y_ne hy]
    have hslope : curve.slope x x y y = 3 * x ^ 2 / (2 * y) := by
      rw [slope_of_Y_ne rfl hy, negY_eq]
      simp only [curve]
      congr 1 <;> ring
    have htwo := two_ne_zero'
    unfold Triple.double
    refine ⟨?_, ?_, ?_⟩
    · simp only [toZMod_mul, toZMod_literal, hY]
      exact mul_ne_zero (mul_ne_zero htwo (mul_ne_zero hy₀ (pow_ne_zero 3 hz))) hz
    · simp only [toZMod_mul, toZMod_sub, toZMod_literal, hX, hY, addX_eq, hslope]
      field_simp
      ring
    · simp only [toZMod_mul, toZMod_sub, toZMod_literal, hX, hY, addY_eq, hslope]
      field_simp
      ring

/-- Adding the base point adds it, unless the scale becomes zero. -/
theorem Represents.addBase {P : Group} {t : Triple} (h : Represents P t)
    (hscale : toZMod t.addBase.Z ≠ 0) : Represents (P + base) t.addBase := by
  cases P with
  | zero => exact h.elim
  | some x y hn =>
    obtain ⟨hz, hX, hY⟩ := h
    have hx : x ≠ toZMod baseX := by
      rintro rfl
      refine hscale ?_
      unfold Triple.addBase
      simp only [toZMod_mul, toZMod_sub, hX]
      ring
    unfold base
    rw [Point.add_of_X_ne hx]
    have hslope : curve.slope x (toZMod baseX) y (toZMod baseY) =
        (y - toZMod baseY) / (x - toZMod baseX) := slope_of_X_ne hx
    have hdiff : x - toZMod baseX ≠ 0 := sub_ne_zero.mpr hx
    refine ⟨hscale, ?_, ?_⟩
    · unfold Triple.addBase
      simp only [toZMod_mul, toZMod_sub, hX, hY, addX_eq, hslope]
      field_simp
      ring
    · unfold Triple.addBase
      simp only [toZMod_mul, toZMod_sub, hX, hY, addY_eq, hslope]
      field_simp
      ring

theorem scale_ne_zero_of_double {t : Triple} (h : toZMod t.double.Z ≠ 0) : toZMod t.Z ≠ 0 := by
  unfold Triple.double at h
  rw [toZMod_mul] at h
  exact right_ne_zero_of_mul h

theorem scale_ne_zero_of_addBase {t : Triple} (h : toZMod t.addBase.Z ≠ 0) :
    toZMod t.Z ≠ 0 := by
  unfold Triple.addBase at h
  rw [toZMod_mul] at h
  exact right_ne_zero_of_mul h

/-- A scale that became zero on the way stays zero, so it suffices to look at the end. -/
theorem represents_multiple {n : ℕ} (hn : 0 < n) (hz : toZMod (Triple.multiple n).Z ≠ 0) :
    Represents (n • base) (Triple.multiple n) := by
  induction n using Nat.strong_induction_on with
  | _ n ih =>
    rw [Triple.multiple] at hz ⊢
    by_cases h₁ : n ≤ 1
    · rw [if_pos h₁, show n = 1 by omega, one_nsmul]
      exact represents_base
    · rw [if_neg h₁] at hz ⊢
      dsimp only at hz ⊢
      by_cases hodd : n % 2 = 1
      · rw [if_pos hodd] at hz ⊢
        have hz' := scale_ne_zero_of_double (scale_ne_zero_of_addBase hz)
        have h := (ih (n / 2) (by omega) (by omega) hz').double.addBase hz
        rwa [← mul_nsmul', ← succ_nsmul, show 2 * (n / 2) + 1 = n by omega] at h
      · rw [if_neg hodd] at hz ⊢
        have h := (ih (n / 2) (by omega) (by omega) (scale_ne_zero_of_double hz)).double
        rwa [← mul_nsmul', show 2 * (n / 2) = n by omega] at h

/-- A multiple that comes out opposite to the base point is one short of infinity. -/
theorem succ_nsmul_base {n : ℕ} {t : Triple} (ht : Represents (n • base) t)
    (hX : t.X = baseX * t.Z * t.Z) (hY : t.Y + baseY * t.Z * t.Z * t.Z = 0) :
    (n + 1) • base = 0 := by
  have hX' := congrArg toZMod hX
  have hY' := congrArg toZMod hY
  simp only [toZMod_mul, toZMod_add, toZMod_zero] at hX' hY'
  rw [succ_nsmul]
  generalize n • base = P at ht ⊢
  cases P with
  | zero => exact ht.elim
  | some x y hn =>
    obtain ⟨hz, hX, hY⟩ := ht
    refine Point.add_of_Y_eq ?_ ?_
    · refine mul_right_cancel₀ (pow_ne_zero 2 hz) ?_
      rw [← hX, hX']
      ring
    · rw [negY_eq]
      refine mul_right_cancel₀ (pow_ne_zero 3 hz) ?_
      rw [← hY, eq_neg_of_add_eq_zero_left hY']
      ring

/-- The multiple by one less than the group order is opposite to the base point. -/
theorem multiple_pred_groupOrder :
    let t := Triple.multiple (groupOrder - 1)
    t.Z ≠ 0 ∧ t.X = baseX * t.Z * t.Z ∧ t.Y + baseY * t.Z * t.Z * t.Z = 0 := by
  decide +kernel

/-- The group order takes the base point to infinity. -/
theorem groupOrder_nsmul_base : groupOrder • base = 0 := by
  obtain ⟨m, hm⟩ : ∃ m, groupOrder = m + 1 :=
    ⟨groupOrder - 1, (Nat.sub_add_cancel prime_groupOrder.one_lt.le).symm⟩
  have hpos : 0 < m := by
    have := prime_groupOrder.one_lt
    omega
  obtain ⟨hz, hX, hY⟩ := multiple_pred_groupOrder
  rw [hm, Nat.add_sub_cancel] at hz hX hY
  have hz' : toZMod (Triple.multiple m).Z ≠ 0 := by
    rw [← toZMod_zero]
    exact fun h => hz (toZMod_injective h)
  rw [hm]
  exact succ_nsmul_base (represents_multiple hpos hz') hX hY

end OffchainSeal.Curve
