import OffchainSeal.Text.Utf8

/-!
# Faults of the binary form
-/

namespace OffchainSeal.Wire

/-- One more than the greatest number of 32 bits. -/
def wordLimit : Nat := 0x100000000

/-- Why a value cannot be written, or bytes cannot be read. -/
inductive Fault where
  /-- A text has too many bytes for its length to be written. -/
  | textTooLong (length : Nat)
  /-- The bytes end where `what` should stand. -/
  | endOfData (what : String)
  /-- A number does not fit into 32 bits. -/
  | varuintOverflow
  /-- A number has no last byte among its first five. -/
  | varuintTooLong
  /-- A text is announced longer than the bytes that are left. -/
  | lengthExceeds (field : String) (length remaining : Nat)
  /-- The bytes of a text are not UTF-8. -/
  | notUtf8 (field : String) (fault : Utf8.Fault)
  /-- The byte before an optional text is neither zero nor one. -/
  | badFlag (field : String) (flag : UInt8)
  /-- Bytes are left after the last field. -/
  | trailing (remaining : Nat)
  deriving DecidableEq, Repr

/-- The wording of a fault. -/
def Fault.message : Fault → String
  | .textTooLong length => s!"string of {length} bytes is too long"
  | .endOfData what => s!"unexpected end of data reading {what}"
  | .varuintOverflow => "varuint32 overflows u32"
  | .varuintTooLong => "varuint32 longer than 5 bytes"
  | .lengthExceeds field length remaining =>
    s!"field {field}: length {length} exceeds remaining {remaining} bytes"
  | .notUtf8 field fault => s!"field {field}: invalid utf-8: {fault.message}"
  | .badFlag field flag => s!"field {field}: invalid optional flag {flag}"
  | .trailing remaining => s!"{remaining} trailing bytes after content"

end OffchainSeal.Wire
