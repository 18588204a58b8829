import OffchainSeal.Bytes.Basic

/-!
# UTF-8

Characters as one to four bytes, and back. Reading accepts the well-formed
sequences of the Unicode standard only (shortest form, no surrogates, nothing
above U+10FFFF) and says where and how the first ill-formed one breaks off.
-/

namespace OffchainSeal.Utf8

/-- How a byte string fails to be UTF-8. -/
inductive Fault where
  /-- From `index` on, `length` bytes begin no well-formed sequence. -/
  | invalid (length index : Nat)
  /-- The bytes end inside the sequence that begins at `index`. -/
  | incomplete (index : Nat)
  deriving DecidableEq, Repr

/-- The wording of a fault. -/
def Fault.message : Fault → String
  | .invalid length index => s!"invalid utf-8 sequence of {length} bytes from index {index}"
  | .incomplete index => s!"incomplete utf-8 byte sequence from index {index}"

/-! ## Writing -/

/-- A byte after the first, with six bits of the character. -/
def continuation (n : Nat) : UInt8 :=
  UInt8.ofNat (0x80 + n % 64)

/-- The bytes of a character. -/
def encodeChar (c : Char) : Bytes :=
  let n := c.toNat
  if n < 0x80 then [UInt8.ofNat n]
  else if n < 0x800 then [UInt8.ofNat (0xc0 + n / 64), continuation n]
  else if n < 0x10000 then
    [UInt8.ofNat (0xe0 + n / 4096), continuation (n / 64), continuation n]
  else
    [UInt8.ofNat (0xf0 + n / 262144), continuation (n / 4096), continuation (n / 64),
      continuation n]

/-- The bytes of a text. -/
def encode (s : List Char) : Bytes :=
  s.flatMap encodeChar

/-! ## Reading -/

/-- What the first byte of a sequence of several bytes promises: how many follow,
where the second one lies, and the bits it holds itself. -/
structure Lead where
  more : Nat
  low : UInt8
  high : UInt8
  bits : Nat

/-- The promise of a first byte, if one begins a sequence of several bytes. -/
def lead? (b : UInt8) : Option Lead :=
  let n := b.toNat
  if 0xc2 ≤ n ∧ n ≤ 0xdf then some ⟨1, 0x80, 0xbf, n - 0xc0⟩
  else if n = 0xe0 then some ⟨2, 0xa0, 0xbf, 0⟩
  else if n = 0xed then some ⟨2, 0x80, 0x9f, 0xd⟩
  else if 0xe1 ≤ n ∧ n ≤ 0xef then some ⟨2, 0x80, 0xbf, n - 0xe0⟩
  else if n = 0xf0 then some ⟨3, 0x90, 0xbf, 0⟩
  else if 0xf1 ≤ n ∧ n ≤ 0xf3 then some ⟨3, 0x80, 0xbf, n - 0xf0⟩
  else if n = 0xf4 then some ⟨3, 0x80, 0x8f, 4⟩
  else none

/-- How a sequence breaks off: at the end of the bytes, or at a wrong byte after
`length` good ones. -/
inductive Break where
  | atEnd
  | wrong (length : Nat)

/-- Reads `more` bytes after `taken` ones; the first of them lies between `low` and
`high`. `bits` is what the sequence holds so far. -/
def follow : Nat → UInt8 → UInt8 → Nat → Nat → Bytes → Except Break (Nat × Bytes)
  | 0, _, _, bits, _, rest => .ok (bits, rest)
  | _ + 1, _, _, _, _, [] => .error .atEnd
  | more + 1, low, high, bits, taken, b :: rest =>
    if low ≤ b ∧ b ≤ high then
      follow more 0x80 0xbf (64 * bits + (b.toNat - 0x80)) (taken + 1) rest
    else .error (.wrong taken)

/-- Reads one character that begins with `b`. -/
def decodeChar (b : UInt8) (rest : Bytes) : Except Break (Char × Bytes) :=
  if b < 0x80 then .ok (Char.ofNat b.toNat, rest)
  else
    match lead? b with
    | none => .error (.wrong 1)
    | some l =>
      match follow l.more l.low l.high l.bits 1 rest with
      | .ok (bits, rest') => .ok (Char.ofNat bits, rest')
      | .error e => .error e

theorem length_le_of_follow {more : Nat} {low high : UInt8} {bits taken n : Nat}
    {rest rest' : Bytes} (h : follow more low high bits taken rest = .ok (n, rest')) :
    rest'.length ≤ rest.length := by
  induction more generalizing low high bits taken rest with
  | zero => simp_all [follow]
  | succ more ih =>
    cases rest with
    | nil => simp [follow] at h
    | cons b rest =>
      unfold follow at h
      split at h
      · exact Nat.le_succ_of_le (ih h)
      · simp at h

theorem length_le_of_decodeChar {b : UInt8} {c : Char} {rest rest' : Bytes}
    (h : decodeChar b rest = .ok (c, rest')) : rest'.length ≤ rest.length := by
  unfold decodeChar at h
  split at h
  · simp_all
  · split at h
    · simp at h
    · split at h
      · next h' => simp at h; exact h.2 ▸ length_le_of_follow h'
      · simp at h

/-- Reads all characters; `index` is the place of the first byte in the whole. -/
def decodeFrom (index : Nat) : Bytes → Except Fault (List Char)
  | [] => .ok []
  | b :: rest =>
    match h : decodeChar b rest with
    | .error .atEnd => .error (.incomplete index)
    | .error (.wrong length) => .error (.invalid length index)
    | .ok (c, rest') =>
      have := length_le_of_decodeChar h
      (decodeFrom (index + (rest.length + 1 - rest'.length)) rest').map (c :: ·)
termination_by bs => bs.length

/-- The text that the bytes stand for. -/
def decode (bs : Bytes) : Except Fault (List Char) :=
  decodeFrom 0 bs

end OffchainSeal.Utf8
