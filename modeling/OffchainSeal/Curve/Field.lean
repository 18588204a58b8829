/-!
# The base field of secp256k1

Numbers modulo the prime `2^256 - 2^32 - 977`. Inverses and square roots are
powers, by Fermat's little theorem and because the prime is 3 modulo 4.
-/

namespace OffchainSeal.Curve

/-- The prime of the base field. -/
def fieldPrime : Nat :=
  0xfffffffffffffffffffffffffffffffffffffffffffffffffffffffefffffc2f

instance : @NeZero Nat Zero.ofOfNat0 fieldPrime := ⟨by decide⟩

/-- An element of the base field. -/
abbrev FieldElement := Fin fieldPrime

namespace FieldElement

/-- The power `a ^ n`, by squaring. -/
def pow (a : FieldElement) (n : Nat) : FieldElement :=
  if n = 0 then 1
  else
    let half := pow (a * a) (n / 2)
    if n % 2 = 1 then a * half else half
termination_by n

/-- The inverse of a nonzero element, and zero for zero. -/
def inverse (a : FieldElement) : FieldElement :=
  pow a (fieldPrime - 2)

/-- A square root, if there is one. -/
def sqrt? (a : FieldElement) : Option FieldElement :=
  let root := pow a ((fieldPrime + 1) / 4)
  if root * root = a then some root else none

/-- The quotient of two elements. -/
def div (a b : FieldElement) : FieldElement :=
  a * inverse b

/-- Whether the canonical representative is odd. -/
def isOdd (a : FieldElement) : Bool :=
  a.val % 2 = 1

end FieldElement
end OffchainSeal.Curve
