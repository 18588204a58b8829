import OffchainSeal.Decimal.Shortest

/-!
# Numbers in documents

A number in a JSON document is an integer if it has neither fraction nor
exponent and fits into 64 bits, and a floating point number otherwise. A
floating point number takes the leading digits as far as they fit into 64 bits
and scales them by powers of ten in double precision.
-/

namespace OffchainSeal.Json

/-- A number of a document. -/
inductive Number where
  | integer (n : Int)
  | float (x : Float)

/-! ## Reading -/

/-- The character is a decimal digit. -/
def isDigit (c : Char) : Bool :=
  '0' ≤ c && c ≤ '9'

/-- The value of a decimal digit. -/
def digitOf (c : Char) : Nat :=
  c.toNat - 48

/-- The greatest number of 64 bits. -/
def maxSignificand : Nat := 0xffffffffffffffff

/-- The leading digits of a number, the power of ten they count, and whether digits
had to be left out. -/
structure Significand where
  value : Nat
  exponent : Int
  full : Bool

/-- Takes a digit in front of the point. -/
def Significand.pushInteger (s : Significand) (d : Char) : Significand :=
  let value := 10 * s.value + digitOf d
  if s.full || maxSignificand < value then { s with exponent := s.exponent + 1, full := true }
  else { s with value }

/-- Takes a digit after the point. -/
def Significand.pushFraction (s : Significand) (d : Char) : Significand :=
  let value := 10 * s.value + digitOf d
  if s.full || maxSignificand < value then { s with full := true }
  else { s with value, exponent := s.exponent - 1 }

/-- A power of ten in double precision. -/
def powerOfTen (n : Nat) : Float :=
  Float.ofScientific 1 false n

/-- Scales `x` by `10 ^ e`, with exponents beyond 308 in several steps; none if it
grows beyond the range. -/
def scale (x : Float) : Nat → Int → Option Float
  | 0, _ => some x
  | fuel + 1, e =>
    if e.natAbs ≤ 308 then
      let y := if 0 ≤ e then x * powerOfTen e.natAbs else x / powerOfTen e.natAbs
      if y.isInf then none else some y
    else if x == 0 then some x
    else if 0 ≤ e then none
    else scale (x / powerOfTen 308) fuel (e + 308)

/-- Shifts of this size or more decide the result alone. -/
def exponentLimit : Int := 0x80000000

/-- The value of a significand whose exponent is changed by `shift`. -/
def Significand.toFloat? (s : Significand) (shift : Int) : Option Float :=
  let x := Float.ofNat s.value
  if exponentLimit ≤ shift ∧ s.value ≠ 0 then none
  else if exponentLimit ≤ shift ∨ shift ≤ -exponentLimit then some 0
  else scale x 8 (s.exponent + shift)

/-- The exponent of a number and the text after it: absent, or a mark, a sign or
none, and digits. -/
def exponent? (s : List Char) : Option (Option Int × List Char) :=
  match s with
  | c :: rest =>
    if c = 'e' || c = 'E' then
      let (negative, rest) :=
        match rest with
        | '+' :: rest => (false, rest)
        | '-' :: rest => (true, rest)
        | _ => (false, rest)
      let digits := rest.takeWhile isDigit
      if digits.isEmpty then none
      else
        let n := Int.ofNat (digits.foldl (fun n d => 10 * n + digitOf d) 0)
        some (some (if negative then -n else n), rest.dropWhile isDigit)
    else some (none, s)
  | [] => some (none, [])

/-- The digits after a point and the text after them; no digits without a point. -/
def fraction? (s : List Char) : Option (List Char × List Char) :=
  match s with
  | '.' :: rest =>
    let digits := rest.takeWhile isDigit
    if digits.isEmpty then none else some (digits, rest.dropWhile isDigit)
  | _ => some ([], s)

/-- The bit above the sixty-three low ones: the sign of a floating point number, and
the greatest size of a negative integer. -/
def topBit : Nat := 0x8000000000000000

/-- The number at the front of a text, and the text after it. -/
def number? (s : List Char) : Option (Number × List Char) := do
  let negative := s.head? = some '-'
  let s := if negative then s.drop 1 else s
  let whole := s.takeWhile isDigit
  if whole.isEmpty || (whole.head? = some '0' && whole.length ≠ 1) then none
  let (fraction, rest) ← fraction? (s.dropWhile isDigit)
  let (shift, rest) ← exponent? rest
  let n := whole.foldl (fun n d => 10 * n + digitOf d) 0
  if fraction.isEmpty && shift.isNone && n ≤ maxSignificand then
    if !negative then return (.integer n, rest)
    if n ≠ 0 && n ≤ topBit then return (.integer (-n), rest)
    return (.float (-(Float.ofNat n)), rest)
  let significand := fraction.foldl Significand.pushFraction
    { whole.foldl Significand.pushInteger ⟨0, 0, false⟩ with full := false }
  let x ← significand.toFloat? (shift.getD 0)
  return (.float (if negative then -x else x), rest)

/-! ## Writing -/

/-- The decimal digits of a number. -/
def digitsText (n : Nat) : List Char :=
  Nat.toDigits 10 n

/-- The digits with a point after the first `n`, filled up with zeros on either side. -/
def withPoint (digits : List Char) (n : Int) : List Char :=
  if n ≤ 0 then ['0', '.'] ++ List.replicate (-n).toNat '0' ++ digits
  else
    let n := n.toNat
    let whole := digits.take n ++ List.replicate (n - digits.length) '0'
    let fraction := digits.drop n
    whole ++ ['.'] ++ (if fraction.isEmpty then ['0'] else fraction)

/-- One digit, a point and the other digits if there are any, and an exponent with a
sign. -/
def withExponent (digits : List Char) (e : Int) : List Char :=
  let fraction := digits.drop 1
  digits.take 1 ++ (if fraction.isEmpty then [] else '.' :: fraction) ++
    ['e', if 0 ≤ e then '+' else '-'] ++ digitsText e.natAbs

/-- The shortest text of a finite number, positional from `10 ^ -5` up to `10 ^ 16`. -/
def floatText (x : Float) : String :=
  let bits := x.toBits
  let negative := topBit ≤ bits.toNat
  let body :=
    if bits.toNat % topBit = 0 then ['0', '.', '0']
    else
      let (c, e) := Decimal.ofBits bits
      let digits := digitsText c
      let first := e + digits.length - 1
      if -5 ≤ first ∧ first < 16 then withPoint digits (first + 1)
      else withExponent digits first
  String.ofList (if negative then '-' :: body else body)

end OffchainSeal.Json
