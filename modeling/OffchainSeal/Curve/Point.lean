import OffchainSeal.Curve.Field

/-!
# The points of secp256k1

The curve `y^2 = x^3 + 7` over the base field, with the chord and tangent law
and multiples by doubling.
-/

namespace OffchainSeal.Curve

/-- The order of the base point. -/
def groupOrder : Nat :=
  0xfffffffffffffffffffffffffffffffebaaedce6af48a03bbfd25e8cd0364141

/-- The right-hand side of the curve equation. -/
def cubic (x : FieldElement) : FieldElement :=
  x * x * x + 7

/-- The point with coordinates `x` and `y` lies on the curve. -/
def OnCurve (x y : FieldElement) : Prop :=
  y * y = cubic x

instance (x y : FieldElement) : Decidable (OnCurve x y) :=
  inferInstanceAs (Decidable (y * y = cubic x))

/-- A point of the projective curve: the point at infinity or a pair of
coordinates. -/
inductive Point where
  | infinity
  | affine (x y : FieldElement)
  deriving DecidableEq, Repr

namespace Point

/-- The third point on the line of slope `m` through two points whose first
coordinates are `x₁` and `x₂`, reflected; `y₁` belongs to `x₁`. -/
def alongLine (m x₁ y₁ x₂ : FieldElement) : Point :=
  let x := m * m - x₁ - x₂
  .affine x (m * (x₁ - x) - y₁)

/-- The sum of two points of the curve. -/
def add : Point → Point → Point
  | .infinity, q => q
  | p, .infinity => p
  | .affine x₁ y₁, .affine x₂ y₂ =>
    if x₁ = x₂ then
      if y₁ + y₂ = 0 then .infinity
      else alongLine (FieldElement.div (3 * x₁ * x₁) (2 * y₁)) x₁ y₁ x₂
    else alongLine (FieldElement.div (y₂ - y₁) (x₂ - x₁)) x₁ y₁ x₂

instance : Add Point := ⟨add⟩

/-- The multiple `n • p`. -/
def multiple (n : Nat) (p : Point) : Point :=
  if n = 0 then .infinity
  else
    let half := multiple (n / 2) (p + p)
    if n % 2 = 1 then p + half else half
termination_by n

end Point

/-- First coordinate of the base point. -/
def baseX : FieldElement :=
  Fin.ofNat _ 0x79be667ef9dcbbac55a06295ce870b07029bfcdb2dce28d959f2815b16f81798

/-- Second coordinate of the base point. -/
def baseY : FieldElement :=
  Fin.ofNat _ 0x483ada7726a3c4655da4fbfc0e1108a8fd17b448a68554199c47d08ffb10d4b8

/-- The base point. -/
def basePoint : Point :=
  .affine baseX baseY

/-- The base point lies on the curve. -/
theorem onCurve_base : OnCurve baseX baseY := by
  decide +kernel

end OffchainSeal.Curve
