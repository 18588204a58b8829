import OffchainSeal.Bytes.Basic

/-!
# Hexadecimal text

Two digits a byte, high half first. Writing uses lower case; reading takes
either case. An odd number of bytes is reported before a bad digit, and of the
bad digits the first.
-/

namespace OffchainSeal.Hex

/-- Why a text is not the hexadecimal form of a byte string. -/
inductive Fault where
  /-- The text has an odd number of bytes. -/
  | oddLength
  /-- The byte at `index` is no hexadecimal digit. -/
  | badDigit (byte : UInt8) (index : Nat)
  deriving DecidableEq, Repr

/-- The digit for a value below sixteen, in lower case. -/
def digit (n : Nat) : UInt8 :=
  if n < 10 then UInt8.ofNat (48 + n) else UInt8.ofNat (87 + n)

/-- The value of a digit of either case. -/
def digitValue? (b : UInt8) : Option Nat :=
  if 48 ≤ b ∧ b ≤ 57 then some (b.toNat - 48)
  else if 97 ≤ b ∧ b ≤ 102 then some (b.toNat - 87)
  else if 65 ≤ b ∧ b ≤ 70 then some (b.toNat - 55)
  else none

/-- The two digits of each byte. -/
def encode (bs : Bytes) : Bytes :=
  bs.flatMap fun b => [digit (b.toNat / 16), digit (b.toNat % 16)]

/-- The hexadecimal form of `bs` as a text. -/
def encodeText (bs : Bytes) : String :=
  String.ofList ((encode bs).map fun b => Char.ofNat b.toNat)

/-- Reads digit pairs; `index` is the place of the first byte in the whole text. -/
def decodeFrom (index : Nat) : Bytes → Except Fault Bytes
  | [] => .ok []
  | [_] => .error .oddLength
  | hi :: lo :: rest =>
    match digitValue? hi, digitValue? lo with
    | none, _ => .error (.badDigit hi index)
    | some _, none => .error (.badDigit lo (index + 1))
    | some h, some l => do
      let bs ← decodeFrom (index + 2) rest
      return UInt8.ofNat (16 * h + l) :: bs

/-- The bytes that a hexadecimal text stands for. -/
def decode (text : Bytes) : Except Fault Bytes :=
  if text.length % 2 = 1 then .error .oddLength else decodeFrom 0 text

end OffchainSeal.Hex
