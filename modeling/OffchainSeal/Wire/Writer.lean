import OffchainSeal.Wire.Fault

/-!
# Writing the binary form

Numbers go seven bits a byte, low bits first. A text is its length in bytes and
its UTF-8 bytes; an optional text has a presence byte in front. A writer is a
step on the bytes written so far; a step that fails still leaves a state.
-/

namespace OffchainSeal.Wire

/-- A step that appends to the bytes written so far and may fail. -/
abbrev Put := ExceptT Fault (StateM Bytes)

/-- A number in seven-bit groups, low bits first; all bytes but the last have the
high bit set. -/
def varuint (n : Nat) : Bytes :=
  if n < 128 then [UInt8.ofNat n] else UInt8.ofNat (128 + n % 128) :: varuint (n / 128)
termination_by n

/-- Appends bytes. -/
def putBytes (bs : Bytes) : Put Unit :=
  modify (· ++ bs)

/-- Appends a number. -/
def putVaruint (v : UInt32) : Put Unit :=
  putBytes (varuint v.toNat)

/-- Appends a text, unless its length takes more than 32 bits. -/
def putText (s : String) : Put Unit :=
  let body := Utf8.encode s.toList
  if body.length < wordLimit then putBytes (varuint body.length ++ body)
  else throw (.textTooLong body.length)

/-- Appends a presence byte, and the text if there is one. -/
def putOptionalText : Option String → Put Unit
  | none => putBytes [0]
  | some s => do
    putBytes [1]
    putText s

/-- The bytes of a writer that starts empty. -/
def Put.toBytes (p : Put Unit) : Except Fault Bytes :=
  match p.run.run [] with
  | (.ok (), bs) => .ok bs
  | (.error e, _) => .error e

end OffchainSeal.Wire
