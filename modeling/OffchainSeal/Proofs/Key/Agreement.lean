import OffchainSeal.Key.Agreement
import OffchainSeal.Proofs.Curve.Order

/-!
# Agreement on a secret

* `toPoint_publicKey`: the public key is the multiple of the base point.
* `multiple_publicKey_comm`: two parties have one common point.
* `derive?_comm`: two parties derive the same secret, each from the other's public key.
* `exists_multiple`, `not_onCurve_zero`: the common point is finite, and no point has a first
  coordinate of zero.
* `exists_derive?`: any private and any public key have a secret.
* `exists_common`: any two parties have one in common.
-/

namespace OffchainSeal

open Curve

theorem PublicKey.exists_group (key : PublicKey) :
    ∃ P : Group, P ≠ 0 ∧ ofGroup P = key.toPoint :=
  exists_ofGroup key.onCurve

/-- A finite point of the group is a key. -/
theorem PublicKey.ofPoint?_ofGroup {P : Group} (hP : P ≠ 0) :
    ∃ key, PublicKey.ofPoint? (ofGroup P) = some key ∧ key.toPoint = ofGroup P := by
  rcases hPoint : ofGroup P with _ | ⟨x, y⟩
  · exact absurd (ofGroup_injective (hPoint.trans ofGroup_zero.symm)) hP
  · exact ⟨⟨x, y, onCurve_of_ofGroup hPoint⟩, dif_pos (onCurve_of_ofGroup hPoint), rfl⟩

namespace PrivateKey

variable (a b : PrivateKey)

/-- The multiple of the base point is a key, so the default is never taken. -/
theorem toPoint_publicKey : a.publicKey.toPoint = ofGroup (a.scalar • base) := by
  have hne : a.scalar • base ≠ 0 :=
    nsmul_ne_zero a.positive a.lt_order (WeierstrassCurve.Affine.Point.some_ne_zero _)
  obtain ⟨key, hkey, hpoint⟩ := PublicKey.ofPoint?_ofGroup hne
  unfold publicKey
  rw [← ofGroup_base, multiple_ofGroup, hkey]
  exact hpoint

end PrivateKey

/-- Two parties have the same common point. -/
theorem multiple_publicKey_comm (a b : PrivateKey) :
    Point.multiple a.scalar b.publicKey.toPoint = Point.multiple b.scalar a.publicKey.toPoint := by
  rw [PrivateKey.toPoint_publicKey, PrivateKey.toPoint_publicKey, multiple_ofGroup,
    multiple_ofGroup, ← mul_nsmul', ← mul_nsmul', Nat.mul_comm]

theorem agree?_comm (a b : PrivateKey) : agree? a b.publicKey = agree? b a.publicKey := by
  unfold agree?
  rw [multiple_publicKey_comm]

/-- Two parties derive the same secret. -/
theorem SharedSecret.derive?_comm (a b : PrivateKey) :
    SharedSecret.derive? a b.publicKey = SharedSecret.derive? b a.publicKey := by
  unfold SharedSecret.derive?
  rw [agree?_comm]

/-- No point of the curve has a first coordinate of zero: seven is not a square. -/
theorem not_onCurve_zero (y : FieldElement) : ¬ OnCurve 0 y := fun h =>
  x_ne_zero (onCurve_iff.mp h) FieldElement.toZMod_zero

theorem Curve.OnCurve.ne_zero {x y : FieldElement} (h : OnCurve x y) : x ≠ 0 := by
  rintro rfl
  exact not_onCurve_zero y h

/-- The common point of a private and a public key is finite: it is a multiple of a finite
point by a number below the order of the group, which is prime. -/
theorem exists_multiple (own : PrivateKey) (other : PublicKey) :
    ∃ x y, Point.multiple own.scalar other.toPoint = .affine x y ∧ OnCurve x y := by
  obtain ⟨P, hP, hpoint⟩ := other.exists_group
  have hne := nsmul_ne_zero own.positive own.lt_order hP
  rw [← hpoint, multiple_ofGroup]
  rcases hQ : ofGroup (own.scalar • P) with _ | ⟨x, y⟩
  · exact absurd (ofGroup_injective (hQ.trans ofGroup_zero.symm)) hne
  · exact ⟨x, y, rfl, onCurve_of_ofGroup hQ⟩

/-- The common point is usable: its first coordinate is not zero. -/
theorem agree?_of_multiple {own : PrivateKey} {other : PublicKey} {x y : FieldElement}
    (h : Point.multiple own.scalar other.toPoint = .affine x y) (hcurve : OnCurve x y) :
    agree? own other = some x := by
  unfold agree?
  rw [h]
  exact if_neg hcurve.ne_zero

theorem exists_agree? (own : PrivateKey) (other : PublicKey) :
    ∃ x, agree? own other = some x := by
  obtain ⟨x, y, h, hcurve⟩ := exists_multiple own other
  exact ⟨x, agree?_of_multiple h hcurve⟩

/-- Any private and any public key have a secret. -/
theorem SharedSecret.exists_derive? (own : PrivateKey) (other : PublicKey) :
    ∃ secret, SharedSecret.derive? own other = some secret := by
  obtain ⟨x, hx⟩ := exists_agree? own other
  unfold SharedSecret.derive?
  rw [hx]
  exact ⟨_, rfl⟩

/-- Any two parties have a secret in common. -/
theorem SharedSecret.exists_common (a b : PrivateKey) :
    ∃ secret, SharedSecret.derive? a b.publicKey = some secret ∧
      SharedSecret.derive? b a.publicKey = some secret := by
  obtain ⟨secret, hs⟩ := SharedSecret.exists_derive? a b.publicKey
  refine ⟨secret, hs, ?_⟩
  rw [SharedSecret.derive?_comm, hs]

end OffchainSeal
