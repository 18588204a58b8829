/-!
# Byte strings

Byte strings are lists of bytes. They are read and written as big-endian
numbers, cut into pieces of one size, and read as vectors of a fixed size.
-/

namespace OffchainSeal

/-- A byte string. -/
abbrev Bytes := List UInt8

namespace Bytes

/-- The number whose base-256 digits, most significant first, are `bs`. -/
def toNat (bs : Bytes) : Nat :=
  bs.foldl (fun n b => 256 * n + b.toNat) 0

/-- The `len` lowest base-256 digits of `n`, most significant first. -/
def ofNat : Nat → Nat → Bytes
  | 0, _ => []
  | len + 1, n => ofNat len (n / 256) ++ [UInt8.ofNat n]

/-- The number whose base-256 digits, least significant first, are `bs`. -/
def toNatLE (bs : Bytes) : Nat :=
  toNat bs.reverse

/-- The `len` lowest base-256 digits of `n`, least significant first. -/
def ofNatLE (len n : Nat) : Bytes :=
  (ofNat len n).reverse

/-- Consecutive pieces of `n` bytes; the last one may be shorter. -/
def chunks (n : Nat) (bs : Bytes) : List Bytes :=
  if bs = [] ∨ n = 0 then [] else bs.take n :: chunks n (bs.drop n)
termination_by bs.length
decreasing_by
  have : bs.length ≠ 0 := by simp_all
  simp only [List.length_drop]
  omega

/-- The first `n` bytes of `bs` as a vector, with zeros where `bs` ends early. -/
def toVector (n : Nat) (bs : Bytes) : Vector UInt8 n :=
  Vector.ofFn fun i => bs.getD i.val 0

theorem length_ofNat (len n : Nat) : (ofNat len n).length = len := by
  induction len generalizing n with
  | zero => rfl
  | succ len ih => simp [ofNat, ih]

theorem toList_toVector {n : Nat} {bs : Bytes} (h : bs.length = n) :
    (toVector n bs).toList = bs := by
  apply List.ext_getElem
  · simp [toVector, h]
  · intro i h₁ h₂
    simp [toVector, Vector.getElem_toList, List.getElem?_eq_getElem h₂]

end Bytes
end OffchainSeal
