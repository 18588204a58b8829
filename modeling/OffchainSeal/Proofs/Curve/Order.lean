import OffchainSeal.Proofs.Curve.Triple

/-!
# The order of the group

The base point has order `groupOrder`, which is prime. There are at most two points
over each first coordinate, and no point of order two, so this is the order of the
whole group.

* `card_group`: the number of points.
* `nsmul_ne_zero`: a scalar in range takes no point to infinity.
-/

namespace OffchainSeal.Curve

open FieldElement

/-! ## The base point -/

theorem addOrderOf_base : addOrderOf base = groupOrder := by
  have := Fact.mk prime_groupOrder
  exact addOrderOf_eq_prime groupOrder_nsmul_base (WeierstrassCurve.Affine.Point.some_ne_zero _)

/-! ## Counting -/

/-- The first coordinate of a point, and whether the second is odd. -/
def compress : Group → Option (Residue × Bool)
  | .zero => none
  | .some x y _ => some (x, y.val % 2 = 1)

theorem odd_neg {y : Residue} (h : y ≠ 0) : (-y).val % 2 ≠ y.val % 2 := by
  have hodd : fieldPrime % 2 = 1 := by norm_num [fieldPrime]
  have := ZMod.val_lt y
  rw [ZMod.neg_val, if_neg h]
  omega

/-- A point is determined by its compressed form. -/
theorem compress_injective : Function.Injective compress := by
  intro P Q h
  cases P with
  | zero =>
    cases Q with
    | zero => rfl
    | some x' y' _ => cases h
  | some x y hn =>
    cases Q with
    | zero => cases h
    | some x' y' hn' =>
      simp only [compress, Option.some.injEq, Prod.mk.injEq, decide_eq_decide] at h
      obtain ⟨rfl, hodd⟩ := h
      have hy := equation_iff.mp (nonsingular_iff.mp hn)
      have hy' := equation_iff.mp (nonsingular_iff.mp hn')
      rcases sq_eq_sq_iff_eq_or_eq_neg.mp (hy.trans hy'.symm) with rfl | rfl
      · rfl
      · have := odd_neg (y_ne_zero (nonsingular_iff.mp hn'))
        omega

instance finite_group : Finite Group :=
  Finite.of_injective compress compress_injective

theorem card_group_le : Nat.card Group ≤ 2 * fieldPrime + 1 := by
  have h := Nat.card_le_card_of_injective compress compress_injective
  have hbool : Nat.card Bool = 2 := by rw [Nat.card_eq_fintype_card, Fintype.card_bool]
  rw [Finite.card_option, Nat.card_prod, Nat.card_zmod, hbool, Nat.mul_comm] at h
  exact h

/-- No point has order two, since no second coordinate is zero. -/
theorem two_nsmul_ne_zero {P : Group} (hP : P ≠ 0) : 2 • P ≠ 0 := by
  intro h
  have hneg : P = -P := by
    rw [two_nsmul] at h
    exact eq_neg_of_add_eq_zero_left h
  cases P with
  | zero => exact hP rfl
  | some x y hn =>
    have heq := nonsingular_iff.mp hn
    rw [WeierstrassCurve.Affine.Point.neg_some, WeierstrassCurve.Affine.Point.some.injEq,
      negY_eq] at hneg
    have h₂ : 2 * y = 0 := by
      linear_combination hneg.2
    rcases mul_eq_zero.mp h₂ with h₂ | h₀
    · exact two_ne_zero' h₂
    · exact y_ne_zero heq h₀

/-- The group has as many elements as the base point has multiples. -/
theorem card_group : Nat.card Group = groupOrder := by
  obtain ⟨k, hk⟩ : groupOrder ∣ Nat.card Group := by
    rw [← addOrderOf_base]
    exact addOrderOf_dvd_natCard base
  have hpos : 0 < Nat.card Group := Nat.card_pos
  have hle := card_group_le
  have hroom : 2 * fieldPrime + 1 < groupOrder * 3 := by norm_num [fieldPrime, groupOrder]
  have hk₃ : k < 3 := by
    by_contra hcon
    have := Nat.mul_le_mul_left groupOrder (Nat.le_of_not_lt hcon)
    omega
  interval_cases k
  · omega
  · rw [hk, Nat.mul_one]
  · have := Fact.mk Nat.prime_two
    have htwo : 2 ∣ Nat.card Group := by
      rw [hk]
      exact Nat.dvd_mul_left 2 groupOrder
    obtain ⟨P, hP⟩ := exists_prime_addOrderOf_dvd_card' 2 htwo
    have hne : P ≠ 0 := by
      rintro rfl
      rw [addOrderOf_zero] at hP
      exact absurd hP (by decide)
    refine absurd ?_ (two_nsmul_ne_zero hne)
    rw [← hP]
    exact addOrderOf_nsmul_eq_zero P

/-- A scalar in range takes no finite point to infinity. -/
theorem nsmul_ne_zero {k : ℕ} {P : Group} (hk : 0 < k) (hk' : k < groupOrder) (hP : P ≠ 0) :
    k • P ≠ 0 := by
  intro h
  have hord : addOrderOf P ∣ groupOrder := by
    rw [← card_group]
    exact addOrderOf_dvd_natCard P
  have hdvd : addOrderOf P ∣ k := addOrderOf_dvd_of_nsmul_eq_zero h
  rcases (Nat.dvd_prime prime_groupOrder).mp hord with h₁ | hn
  · exact hP (AddMonoid.addOrderOf_eq_one_iff.mp h₁)
  · rw [hn] at hdvd
    exact absurd (Nat.le_of_dvd hk hdvd) (Nat.not_le.mpr hk')

end OffchainSeal.Curve
