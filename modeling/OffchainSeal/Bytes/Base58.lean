import OffchainSeal.Bytes.Basic

/-!
# Base 58 text

A byte string as a number in base 58, most significant digit first, with one
digit of value zero in front for each leading zero byte. The digits are the
ASCII letters and digits without the four that look alike.
-/

namespace OffchainSeal.Base58

/-- Why a text is not in base 58. -/
inductive Fault where
  /-- The ASCII character at byte `index` is no digit. -/
  | badCharacter (c : Char) (index : Nat)
  /-- At byte `index` stands a character outside ASCII. -/
  | nonAscii (index : Nat)
  deriving DecidableEq, Repr

/-- The digits in the order of their values. -/
def alphabet : List Char :=
  "123456789ABCDEFGHJKLMNPQRSTUVWXYZabcdefghijkmnopqrstuvwxyz".toList

/-- The value of a digit. -/
def digitValue? (c : Char) : Option Nat :=
  alphabet.findIdx? (· = c)

/-- The digit of a value. -/
def digit (n : Nat) : Char :=
  alphabet.getD n '1'

/-- The base-58 digits of a number, least significant first; none for zero. -/
def digits (n : Nat) : List Nat :=
  if n = 0 then [] else n % 58 :: digits (n / 58)
termination_by n

/-- The base-256 digits of a number, least significant first; none for zero. -/
def byteDigits (n : Nat) : Bytes :=
  if n = 0 then [] else UInt8.ofNat n :: byteDigits (n / 256)
termination_by n

/-- The text of a byte string. -/
def encode (bs : Bytes) : List Char :=
  List.replicate (bs.takeWhile (· = 0)).length '1' ++
    ((digits (Bytes.toNat bs)).reverse.map digit)

/-- The values of the digits of a text; `index` is the place of the first one. -/
def values (index : Nat) : List Char → Except Fault (List Nat)
  | [] => .ok []
  | c :: rest =>
    if 128 ≤ c.toNat then .error (.nonAscii index)
    else
      match digitValue? c with
      | none => .error (.badCharacter c index)
      | some v => (values (index + 1) rest).map (v :: ·)

/-- The byte string of a text. -/
def decode (s : List Char) : Except Fault Bytes := do
  let vs ← values 0 s
  let n := vs.foldl (fun n v => 58 * n + v) 0
  return List.replicate (vs.takeWhile (· = 0)).length 0 ++ (byteDigits n).reverse

end OffchainSeal.Base58
