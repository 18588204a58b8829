/-!
# Character ranges

Unicode properties are given as sorted arrays of inclusive code point ranges.
-/

namespace OffchainSeal.Text

/-- The character lies in one of the ranges. -/
def inRanges (ranges : Array (Nat × Nat)) (c : Char) : Bool :=
  ranges.any fun r => r.1 ≤ c.toNat && c.toNat ≤ r.2

end OffchainSeal.Text
