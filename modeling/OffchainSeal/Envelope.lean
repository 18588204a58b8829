import OffchainSeal.Bytes.Hex
import OffchainSeal.Cipher.Cbc
import OffchainSeal.Digest.Hmac
import OffchainSeal.Text.Blank
import OffchainSeal.Text.Quoted
import OffchainSeal.Text.Utf8

/-!
# Envelopes

An envelope is an initial vector, one or more cipher blocks, and a tag over
both. There is no length field: the parts follow from the length of the whole.
As a text it is hexadecimal.
-/

namespace OffchainSeal

open Cipher Digest

/-- The initial vector, the cipher text and the tag, one after the other. -/
def frame (iv : Block) (cipherText : Bytes) (tag : Tag) : Bytes :=
  iv.toList ++ cipherText ++ tag.toList

/-- The bytes that a tag covers. -/
def authenticatedData (iv : Block) (cipherText : Bytes) : Bytes :=
  iv.toList ++ cipherText

/-- A sealed text: one or more whole cipher blocks between an initial vector and a
tag. -/
structure Envelope where
  iv : Block
  cipherText : Bytes
  tag : Tag
  nonempty : 0 < cipherText.length
  whole : cipherText.length % blockSize = 0

namespace Envelope

/-- Why bytes or a text form no envelope. -/
inductive Fault where
  /-- The text is not hexadecimal. -/
  | hex (fault : Hex.Fault)
  /-- There is no room for a vector, a block and a tag. -/
  | tooShort (actual : Nat)
  /-- The bytes between vector and tag are no whole blocks. -/
  | misaligned (actual : Nat)
  deriving DecidableEq, Repr

/-- The fewest bytes of an envelope. -/
def minLength : Nat := 64

/-- The number of bytes in a tag. -/
def tagLength : Nat := 32

/-- The parts of an envelope. -/
def parse (bs : Bytes) : Except Fault Envelope :=
  if short : bs.length < minLength then .error (.tooShort bs.length)
  else
    let body := bs.drop blockSize
    let cipherText := body.take (body.length - tagLength)
    if whole : cipherText.length % blockSize = 0 then
      .ok {
        iv := Bytes.toVector 16 bs
        cipherText
        tag := Bytes.toVector 32 (body.drop (body.length - tagLength))
        nonempty := by
          simp only [cipherText, body, minLength, blockSize, tagLength, List.length_take,
            List.length_drop] at short ⊢
          omega
        whole }
    else .error (.misaligned cipherText.length)

/-- The bytes of the envelope. -/
def toBytes (e : Envelope) : Bytes :=
  frame e.iv e.cipherText e.tag

/-- The bytes that the tag covers. -/
def authenticated (e : Envelope) : Bytes :=
  authenticatedData e.iv e.cipherText

/-- The number of bytes. -/
def length (e : Envelope) : Nat :=
  blockSize + e.cipherText.length + tagLength

/-- The envelope in lower-case hexadecimal. -/
def toHex (e : Envelope) : String :=
  Hex.encodeText e.toBytes

/-- The envelope of a hexadecimal text, blanks around it aside. -/
def ofHex (text : List Char) : Except Fault Envelope := do
  let bs ← (Hex.decode (Utf8.encode (Text.trim text))).mapError .hex
  parse bs

end Envelope

/-- The wording of a fault; a bad digit is shown as the character of its byte. -/
def Hex.Fault.message : Hex.Fault → String
  | .oddLength => "Odd number of digits"
  | .badDigit byte index =>
    s!"Invalid character {Text.quoteChar (Char.ofNat byte.toNat)} at position {index}"

/-- The wording of a fault. -/
def Envelope.Fault.message : Envelope.Fault → String
  | .hex fault => s!"invalid hex: {fault.message}"
  | .tooShort actual => s!"envelope is {actual} bytes, need at least 64"
  | .misaligned actual =>
    s!"ciphertext region of {actual} bytes is not a multiple of 16"

end OffchainSeal
