import OffchainSeal.Proofs.Curve.Field

/-!
# The points as a group

The chord and tangent law on points is the addition of the group of the elliptic
curve `y^2 = x^3 + 7` over the residues, and multiples by doubling are its
multiples.

* `ofGroup_add`, `multiple_ofGroup`.
* `exists_ofGroup`: every point that lies on the curve is one of the group.
-/

namespace OffchainSeal.Curve

/-- The curve over the residues. -/
def curve : WeierstrassCurve.Affine Residue :=
  ⟨0, 0, 0, 0, 7⟩

/-- The group of the curve. -/
abbrev Group := curve.Point

theorem equation_iff {x y : Residue} : curve.Equation x y ↔ y ^ 2 = x ^ 3 + 7 := by
  rw [WeierstrassCurve.Affine.equation_iff]
  simp [curve]

theorem negY_eq (x y : Residue) : curve.negY x y = -y := by
  simp [curve, WeierstrassCurve.Affine.negY]

theorem addX_eq (x₁ x₂ ℓ : Residue) : curve.addX x₁ x₂ ℓ = ℓ ^ 2 - x₁ - x₂ := by
  simp only [WeierstrassCurve.Affine.addX, curve]
  ring

theorem addY_eq (x₁ x₂ y₁ ℓ : Residue) :
    curve.addY x₁ x₂ y₁ ℓ = ℓ * (x₁ - (ℓ ^ 2 - x₁ - x₂)) - y₁ := by
  rw [WeierstrassCurve.Affine.addY, WeierstrassCurve.Affine.negAddY, addX_eq, negY_eq]
  ring

theorem two_ne_zero' : (2 : Residue) ≠ 0 := by
  have : ((2 : ℕ) : Residue) ≠ 0 := by
    rw [Ne, ZMod.natCast_eq_zero_iff]
    norm_num [fieldPrime]
  simpa using this

/-- No point of the curve lies on the first axis. -/
theorem y_ne_zero {x y : Residue} (h : curve.Equation x y) : y ≠ 0 := by
  rintro rfl
  rw [equation_iff] at h
  refine cube_ne_neg_seven x (eq_neg_of_add_eq_zero_left ?_)
  rw [← h]
  ring

/-- No point of the curve lies on the second axis. -/
theorem x_ne_zero {x y : Residue} (h : curve.Equation x y) : x ≠ 0 := by
  rintro rfl
  rw [equation_iff] at h
  refine square_ne_seven y ?_
  rw [h]
  ring

/-- The curve has no singular points. -/
theorem nonsingular_iff {x y : Residue} : curve.Nonsingular x y ↔ curve.Equation x y := by
  rw [WeierstrassCurve.Affine.nonsingular_iff]
  refine and_iff_left_of_imp fun h => .inr ?_
  simp only [curve, zero_mul, sub_zero]
  intro hy
  have : 2 * y = 0 := by
    rw [two_mul]
    nth_rewrite 1 [hy]
    exact neg_add_cancel y
  rcases mul_eq_zero.mp this with h₂ | h₀
  · exact two_ne_zero' h₂
  · exact y_ne_zero h h₀

/-! ## Elements of residues -/

namespace FieldElement

/-- The element of a residue. -/
def ofZMod (z : Residue) : FieldElement :=
  ⟨z.val, ZMod.val_lt z⟩

@[simp] theorem toZMod_ofZMod (z : Residue) : toZMod (ofZMod z) = z :=
  ZMod.natCast_zmod_val z

@[simp] theorem ofZMod_toZMod (a : FieldElement) : ofZMod (toZMod a) = a :=
  toZMod_injective (toZMod_ofZMod _)

theorem ofZMod_injective : Function.Injective ofZMod := by
  intro z w h
  rw [← toZMod_ofZMod z, h, toZMod_ofZMod]

theorem eq_ofZMod_iff {a : FieldElement} {z : Residue} : a = ofZMod z ↔ toZMod a = z := by
  constructor
  · rintro rfl
    exact toZMod_ofZMod z
  · rintro rfl
    exact (ofZMod_toZMod a).symm

end FieldElement

open FieldElement

@[simp] theorem toZMod_literal (n : ℕ) [n.AtLeastTwo] :
    toZMod (ofNat(n) : FieldElement) = ofNat(n) :=
  (toZMod_ofNat n).trans Nat.cast_ofNat

theorem onCurve_iff {x y : FieldElement} :
    OnCurve x y ↔ curve.Equation (toZMod x) (toZMod y) := by
  unfold OnCurve cubic
  rw [equation_iff, ← toZMod_injective.eq_iff]
  simp only [toZMod_mul, toZMod_add, toZMod_literal]
  constructor
  · intro h
    linear_combination h
  · intro h
    linear_combination h

/-! ## Points -/

/-- The point of an element of the group. -/
def ofGroup : Group → Point
  | .zero => .infinity
  | .some x y _ => .affine (ofZMod x) (ofZMod y)

theorem ofGroup_zero : ofGroup 0 = .infinity := rfl

theorem ofGroup_injective : Function.Injective ofGroup := by
  intro P Q h
  cases P with
  | zero =>
    cases Q with
    | zero => rfl
    | some x y _ => cases h
  | some x y _ =>
    cases Q with
    | zero => cases h
    | some x' y' _ =>
      obtain ⟨hx, hy⟩ := Point.affine.inj h
      cases ofZMod_injective hx
      cases ofZMod_injective hy
      rfl

/-- A point on the curve is one of the group. -/
theorem exists_ofGroup {x y : FieldElement} (h : OnCurve x y) :
    ∃ P : Group, P ≠ 0 ∧ ofGroup P = .affine x y := by
  refine ⟨.some (toZMod x) (toZMod y) (nonsingular_iff.mpr (onCurve_iff.mp h)),
    WeierstrassCurve.Affine.Point.some_ne_zero _, ?_⟩
  show Point.affine (ofZMod (toZMod x)) (ofZMod (toZMod y)) = .affine x y
  rw [ofZMod_toZMod, ofZMod_toZMod]

theorem onCurve_of_ofGroup {P : Group} {x y : FieldElement} (h : ofGroup P = .affine x y) :
    OnCurve x y := by
  cases P with
  | zero => cases h
  | some x' y' hn =>
    obtain ⟨hx, hy⟩ := Point.affine.inj h
    rw [onCurve_iff, ← hx, ← hy, toZMod_ofZMod, toZMod_ofZMod]
    exact nonsingular_iff.mp hn

/-- The third point on a line is the one of the group. -/
theorem alongLine_eq {m : FieldElement} {ℓ x₁ x₂ y₁ : Residue} (hm : toZMod m = ℓ) :
    Point.alongLine m (ofZMod x₁) (ofZMod y₁) (ofZMod x₂) =
      .affine (ofZMod (curve.addX x₁ x₂ ℓ)) (ofZMod (curve.addY x₁ x₂ y₁ ℓ)) := by
  have hx : m * m - ofZMod x₁ - ofZMod x₂ = ofZMod (curve.addX x₁ x₂ ℓ) := by
    rw [eq_ofZMod_iff, ← hm]
    simp only [toZMod_sub, toZMod_mul, toZMod_ofZMod, addX_eq]
    ring
  unfold Point.alongLine
  dsimp only
  rw [hx, Point.affine.injEq, eq_self_iff_true, true_and, eq_ofZMod_iff]
  simp only [toZMod_sub, toZMod_mul, toZMod_ofZMod, hm, addX_eq, addY_eq]

/-- The chord and tangent law is the addition of the group. -/
theorem ofGroup_add (P Q : Group) : ofGroup (P + Q) = ofGroup P + ofGroup Q := by
  show _ = Point.add (ofGroup P) (ofGroup Q)
  cases P with
  | zero => rw [← WeierstrassCurve.Affine.Point.zero_def, zero_add]; rfl
  | some x₁ y₁ h₁ =>
  cases Q with
  | zero => rw [← WeierstrassCurve.Affine.Point.zero_def, add_zero]; rfl
  | some x₂ y₂ h₂ =>
  show _ = if ofZMod x₁ = ofZMod x₂ then _ else _
  have hsum : ofZMod y₁ + ofZMod y₂ = 0 ↔ y₁ = -y₂ := by
    rw [← toZMod_injective.eq_iff, toZMod_add, toZMod_zero, toZMod_ofZMod, toZMod_ofZMod,
      add_eq_zero_iff_eq_neg]
  by_cases hx : x₁ = x₂
  · rw [if_pos (by rw [hx])]
    by_cases hy : y₁ = -y₂
    · rw [if_pos (hsum.mpr hy), WeierstrassCurve.Affine.Point.add_of_Y_eq hx (by rw [negY_eq, hy])]
      rfl
    · have hy' : y₁ ≠ curve.negY x₂ y₂ := by rwa [negY_eq]
      rw [if_neg (fun h => hy (hsum.mp h)), WeierstrassCurve.Affine.Point.add_of_Y_ne hy',
        alongLine_eq (ℓ := curve.slope x₁ x₂ y₁ y₂)]
      · rfl
      · rw [WeierstrassCurve.Affine.slope_of_Y_ne hx hy', negY_eq]
        simp only [toZMod_div, toZMod_mul, toZMod_ofZMod, toZMod_literal, curve]
        congr 1 <;> ring
  · rw [if_neg (fun h => hx (ofZMod_injective h)), WeierstrassCurve.Affine.Point.add_of_X_ne hx,
      alongLine_eq (ℓ := curve.slope x₁ x₂ y₁ y₂)]
    · rfl
    · rw [WeierstrassCurve.Affine.slope_of_X_ne hx]
      simp only [toZMod_div, toZMod_sub, toZMod_ofZMod]
      rw [← neg_sub y₁, ← neg_sub x₁, neg_div_neg_eq]

/-- Multiples by doubling are the multiples of the group. -/
theorem multiple_ofGroup (n : ℕ) (P : Group) :
    Point.multiple n (ofGroup P) = ofGroup (n • P) := by
  induction n using Nat.strong_induction_on generalizing P with
  | _ n ih =>
    rw [Point.multiple]
    by_cases h₀ : n = 0
    · rw [if_pos h₀, h₀, zero_nsmul]
      rfl
    · rw [if_neg h₀, ← ofGroup_add, ih (n / 2) (by omega), ← two_nsmul, ← mul_nsmul]
      dsimp only
      split_ifs with h₁
      · rw [← ofGroup_add, ← succ_nsmul', show 2 * (n / 2) + 1 = n by omega]
      · rw [show 2 * (n / 2) = n by omega]

end OffchainSeal.Curve
