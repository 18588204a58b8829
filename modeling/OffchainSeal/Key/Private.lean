import OffchainSeal.Key.Public

/-!
# Private keys

A private key is a number from one up to the group order. It is written in the
wallet import format (WIF) or in the typed form with the tag `PVT_K1_`; the
wallet import format may carry a flag byte after the number.
-/

namespace OffchainSeal

open Curve

/-- A number from one up to the group order. -/
structure PrivateKey where
  scalar : Nat
  positive : 0 < scalar
  lt_order : scalar < groupOrder
  deriving DecidableEq

namespace PrivateKey

/-- The public key: the multiple of the base point. A scalar in range never gives
the point at infinity, so the default stands for no case. -/
def publicKey (k : PrivateKey) : PublicKey :=
  (PublicKey.ofPoint? (Point.multiple k.scalar basePoint)).getD .base

/-! ## Bytes -/

/-- The number in thirty-two bytes. -/
def toBytes (k : PrivateKey) : Bytes :=
  Bytes.ofNat 32 k.scalar

/-- The key of thirty-two bytes. -/
def ofBytes (bs : Bytes) : Except Key.Fault PrivateKey :=
  if bs.length ≠ 32 then .error (.scalarLength bs.length)
  else
    let n := Bytes.toNat bs
    if h : 0 < n ∧ n < groupOrder then .ok ⟨n, h.1, h.2⟩ else .error .scalarRange

/-! ## The wallet import format -/

/-- The first byte of the wallet import format. -/
def wifVersion : UInt8 := 0x80

/-- The flag byte that may follow the number. -/
def wifFlag : UInt8 := 0x01

/-- The bytes before the checksum, with or without the flag. -/
def wifBody (k : PrivateKey) (flagged : Bool) : Bytes :=
  wifVersion :: k.toBytes ++ (if flagged then [wifFlag] else [])

/-- The wallet import text, with or without the flag. -/
def toWifWith (k : PrivateKey) (flagged : Bool) : List Char :=
  let body := k.wifBody flagged
  Base58.encode (body ++ Digest.doubleSha256Checksum body)

/-- The wallet import text, written without the flag. -/
def toWif (k : PrivateKey) : List Char :=
  k.toWifWith false

/-- The number of bytes before the checksum: the length tells whether the flag is
there. -/
def wifBodyLength? (raw : Bytes) : Option Nat :=
  if raw.length = 37 then some 33
  else if raw.length = 38 ∧ raw[33]? = some wifFlag then some 34
  else none

/-- The key of a wallet import text. -/
def ofWif (text : List Char) : Except Key.Fault PrivateKey := do
  let raw ← (Base58.decode text).mapError .base58
  match wifBodyLength? raw with
  | none => .error (.wifLength raw.length)
  | some n =>
    let version := raw.headD 0
    if version ≠ wifVersion then .error (.wifVersion version)
    else if Digest.doubleSha256Checksum (raw.take n) ≠ raw.drop n then .error .wifChecksum
    else ofBytes ((raw.drop 1).take 32)

/-! ## The typed form -/

/-- The tag of the typed form. -/
def typedTag : List Char := "PVT_K1_".toList

/-- The typed text. -/
def toTyped (k : PrivateKey) : List Char :=
  typedTag ++ Key.encodeChecked k.toBytes Key.curveTag

/-- The key of a typed text. -/
def ofTyped (text : List Char) : Except Key.Fault PrivateKey :=
  match Text.after? typedTag text with
  | none => .error .untypedPrivate
  | some body => do ofBytes (← Key.decodeChecked body 32 Key.curveTag)

/-! ## Either form -/

/-- The key of a text in either form, blanks around it aside. -/
def decode (text : List Char) : Except Key.Fault PrivateKey :=
  let s := Text.trim text
  if typedTag.isPrefixOf s then ofTyped s else ofWif s

/-- The key of a string in either form, blanks around it aside. -/
def ofString (s : String) : Except Key.Fault PrivateKey :=
  decode s.toList

/-- The key in reports, which never show it. -/
def describe (_ : PrivateKey) : String :=
  "PrivateKey([REDACTED])"

end PrivateKey
end OffchainSeal
