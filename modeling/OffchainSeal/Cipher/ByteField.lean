/-!
# The field of 256 elements

Bytes as polynomials over the two-element field modulo
`x^8 + x^4 + x^3 + x + 1`. Addition is exclusive or.
-/

namespace OffchainSeal.Cipher.ByteField

/-- The product with `x`. -/
def timesX (b : UInt8) : UInt8 :=
  if b &&& 0x80 = 0 then b <<< 1 else (b <<< 1) ^^^ 0x1b

/-- The product of `a` with the lowest `n` bits of `b`. -/
def mulLow : Nat → UInt8 → UInt8 → UInt8
  | 0, _, _ => 0
  | n + 1, a, b => (if b &&& 1 = 1 then a else 0) ^^^ mulLow n (timesX a) (b >>> 1)

/-- The product. -/
def mul (a b : UInt8) : UInt8 :=
  mulLow 8 a b

/-- The product of the squares `b^2`, `b^4`, and so on, `n` of them. -/
def squares : Nat → UInt8 → UInt8
  | 0, _ => 1
  | n + 1, b => mul (mul b b) (squares n (mul b b))

/-- The inverse of a nonzero element, and zero for zero: the power 254. -/
def inverse (b : UInt8) : UInt8 :=
  squares 7 b

end OffchainSeal.Cipher.ByteField
