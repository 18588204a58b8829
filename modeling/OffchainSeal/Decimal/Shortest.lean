/-!
# Shortest decimals

The decimal of fewest digits that reads back as a given binary floating point
number, and of several such the nearest one, with an even last digit if two are as
near. A positive number is given as `m * 2 ^ q`. The reals that round to it form an
interval around it; on the grid of decimals of a given length only the two
neighbours of the number can be the nearest, so these two are tried for one digit,
two digits, and so on.
-/

namespace OffchainSeal.Decimal

/-- A positive fraction. -/
structure Ratio where
  num : Nat
  den : Nat

/-- The ratio `m * 2 ^ q`. -/
def Ratio.binary (m : Nat) (q : Int) : Ratio :=
  if 0 ≤ q then ⟨m * Nat.pow 2 q.toNat, 1⟩ else ⟨m, Nat.pow 2 (-q).toNat⟩

/-- The ratio `c * 10 ^ e`. -/
def Ratio.decimal (c : Nat) (e : Int) : Ratio :=
  if 0 ≤ e then ⟨c * Nat.pow 10 e.toNat, 1⟩ else ⟨c, Nat.pow 10 (-e).toNat⟩

/-- `a < b`. -/
def Ratio.lt (a b : Ratio) : Bool :=
  a.num * b.den < b.num * a.den

/-- `a ≤ b`. -/
def Ratio.le (a b : Ratio) : Bool :=
  a.num * b.den ≤ b.num * a.den

/-- Twice the distance from `a` up to `b`, compared with the distance `gap`. -/
def Ratio.compareTwice (a b gap : Ratio) : Ordering :=
  compare (2 * (b.num * a.den - a.num * b.den) * gap.den) (gap.num * (a.den * b.den))

/-- The reals that round to a binary number: between two ratios, with or without
the ends. -/
structure Interval where
  low : Ratio
  high : Ratio
  closed : Bool

/-- The ratio rounds to the binary number. -/
def Interval.contains (i : Interval) (r : Ratio) : Bool :=
  if i.closed then i.low.le r && r.le i.high else i.low.lt r && r.lt i.high

/-- The bit in front of the fifty-two stored ones. -/
def leadingBit : Nat := 0x10000000000000

/-- The interval of `m * 2 ^ q`. The number below is half as far away when `m` is a
power of two and not the least one; ties go to even `m`. -/
def Interval.around (m : Nat) (q : Int) (leastExponent : Bool) : Interval :=
  let below := if m = leadingBit && !leastExponent then 4 * m - 1 else 4 * m - 2
  ⟨.binary below (q - 2), .binary (4 * m + 2) (q - 2), m % 2 = 0⟩

/-- The greatest `e` with `10 ^ e ≤ r`, searched downwards from `start`. -/
def exponentBelow (r : Ratio) : Nat → Int → Int
  | 0, e => e
  | fuel + 1, e => if (Ratio.decimal 1 e).le r then e else exponentBelow r fuel (e - 1)

/-- Tries decimals with more and more digits; `exponent` is that of the last digit. -/
def searchFrom (r : Ratio) (interval : Interval) : Nat → Int → Nat × Int
  | 0, e => (0, e)
  | fuel + 1, e =>
    let unit := Ratio.decimal 1 e
    let below := (r.num * unit.den) / (r.den * unit.num)
    let lowFits := interval.contains (.decimal below e) && below ≠ 0
    let highFits := interval.contains (.decimal (below + 1) e)
    if lowFits && highFits then
      match (Ratio.decimal below e).compareTwice r unit with
      | .lt => (below, e)
      | .gt => (below + 1, e)
      | .eq => if below % 2 = 0 then (below, e) else (below + 1, e)
    else if lowFits then (below, e)
    else if highFits then (below + 1, e)
    else searchFrom r interval fuel (e - 1)

/-- The digits and the exponent of the shortest decimal for `m * 2 ^ q`. -/
def shortest (m : Nat) (q : Int) (leastExponent : Bool) : Nat × Int :=
  let r := Ratio.binary m q
  let top := exponentBelow r 640 309
  searchFrom r (.around m q leastExponent) 18 top

/-- The digits without the zeros at their end, and the exponent of what is left. -/
def dropZeros : Nat → Nat → Int → Nat × Int
  | 0, c, e => (c, e)
  | fuel + 1, c, e => if c % 10 = 0 ∧ c ≠ 0 then dropZeros fuel (c / 10) (e + 1) else (c, e)

/-- The shortest decimal of a finite nonzero number of double precision, its sign
aside. -/
def ofBits (bits : UInt64) : Nat × Int :=
  let fraction := bits.toNat % leadingBit
  let exponent := bits.toNat / leadingBit % 2048
  let (c, e) :=
    if exponent = 0 then shortest fraction (-1074) true
    else shortest (leadingBit + fraction) (Int.ofNat exponent - 1075) (exponent = 1)
  dropZeros 20 c e

end OffchainSeal.Decimal
