import OffchainSeal.Content.Document
import OffchainSeal.Envelope
import OffchainSeal.Failure
import OffchainSeal.Key.Agreement

/-!
# Sealing and opening

To seal, the two parties' secret is derived, the text is encrypted under an
initial vector, and vector and cipher text are tagged. To open, the envelope is
parsed, the secret derived, the tag compared, and only then anything decrypted.
The random source is a value: the initial vector it delivers, or none.
-/

namespace OffchainSeal

open Cipher Digest

/-! ## Faults as failures -/

namespace Failure

/-- A key that is none. -/
def ofKey (fault : Key.Fault) : Failure :=
  .keyFormat fault.message

/-- An envelope that is none. -/
def ofEnvelope (fault : Envelope.Fault) : Failure :=
  .envelopeFormat fault.message

/-- A binary form that cannot be read or written. -/
def ofWire (fault : Wire.Fault) : Failure :=
  .serialization fault.message

/-- A text that names no kind of content. -/
def ofKind (fault : Content.Kind.Unknown) : Failure :=
  .serialization fault.message

/-- A document that is no content of the kind. -/
def ofDocument (kind : Content.Kind) (fault : Json.Fault) : Failure :=
  .serialization s!"invalid {kind} json: {fault.message}"

/-- A cipher text that cannot be decrypted. -/
def ofCbc : CbcFault → Failure
  | .misaligned length =>
    .envelopeFormat s!"ciphertext length {length} is not a positive multiple of 16"
  | .partialBlock => .envelopeFormat "ciphertext is not block aligned"
  | .padding fault => .padding fault.padLength fault.length

end Failure

/-! ## Byte strings -/

/-- The secret of two parties. -/
def agree (own : PrivateKey) (other : PublicKey) : Except Failure SharedSecret :=
  match SharedSecret.derive? own other with
  | some secret => .ok secret
  | none => .error (.keyAgreement "shared point has zero x-coordinate")

/-- The framed envelope of a text under a secret. -/
def sealWith (secret : SharedSecret) (iv : Block) (text : Bytes) : Bytes :=
  let cipherText := encrypt secret.cipherKey iv text
  let tag := hmacSha256 secret.tagKey.toList (authenticatedData iv cipherText)
  frame iv cipherText tag

/-- Seals a text under an initial vector of the caller's. -/
def sealBytesWith (sender : PrivateKey) (recipient : PublicKey) (iv : Block) (text : Bytes) :
    Except Failure Bytes := do
  let secret ← agree sender recipient
  return sealWith secret iv text

/-- Seals a text under the initial vector that the random source delivers. -/
def sealBytes (sender : PrivateKey) (recipient : PublicKey) (iv? : Option Block)
    (text : Bytes) : Except Failure Bytes :=
  match iv? with
  | none => .error .randomSource
  | some iv => sealBytesWith sender recipient iv text

/-- Compares a tag with the right one. -/
def checkTag (key message tag : Bytes) : Except Failure Unit :=
  if verifies key message tag then .ok () else .error .authentication

/-- The text of an envelope under a secret. -/
def openWith (secret : SharedSecret) (e : Envelope) : Except Failure Bytes := do
  checkTag secret.tagKey.toList e.authenticated e.tag.toList
  (decrypt secret.cipherKey e.iv e.cipherText).mapError .ofCbc

/-- Opens an envelope. -/
def openEnvelope (recipient : PrivateKey) (sender : PublicKey) (e : Envelope) :
    Except Failure Bytes := do
  let secret ← agree recipient sender
  openWith secret e

/-- Opens a framed envelope. -/
def openBytes (recipient : PrivateKey) (sender : PublicKey) (framed : Bytes) :
    Except Failure Bytes := do
  let e ← (Envelope.parse framed).mapError .ofEnvelope
  openEnvelope recipient sender e

/-! ## Texts -/

/-- Seals a text for the holder of a public key, as hexadecimal. -/
def sealHex (sender : PrivateKey) (recipient : String) (iv? : Option Block) (text : Bytes) :
    Except Failure String := do
  let recipient ← (PublicKey.ofString recipient).mapError .ofKey
  let framed ← sealBytes sender recipient iv? text
  return Hex.encodeText framed

/-- Opens a hexadecimal envelope from the holder of a public key. The envelope is
looked at before the key. -/
def openHex (envelope : String) (recipient : PrivateKey) (sender : String) :
    Except Failure Bytes := do
  let e ← (Envelope.ofHex envelope.toList).mapError .ofEnvelope
  let sender ← (PublicKey.ofString sender).mapError .ofKey
  openEnvelope recipient sender e

/-! ## Content -/

/-- Seals content. -/
def sealContent (c : Content) (sender : PrivateKey) (recipient : String)
    (iv? : Option Block) : Except Failure String := do
  let text ← c.toBytes.mapError .ofWire
  sealHex sender recipient iv? text

/-- Seals a payload. -/
def sealPayload {α : Type} [Payload α] (a : α) (sender : PrivateKey) (recipient : String)
    (iv? : Option Block) : Except Failure String := do
  let text ← (Payload.toBytes a).mapError .ofWire
  sealHex sender recipient iv? text

/-- Opens an envelope that holds content of a kind. -/
def openContent (envelope : String) (recipient : PrivateKey) (sender : String)
    (kind : Content.Kind) : Except Failure Content := do
  let text ← openHex envelope recipient sender
  (Content.ofBytes kind text).mapError .ofWire

/-- Opens an envelope that holds a payload. -/
def openPayload {α : Type} [Payload α] (envelope : String) (recipient : PrivateKey)
    (sender : String) : Except Failure α := do
  let text ← openHex envelope recipient sender
  (Payload.ofBytes text).mapError .ofWire

end OffchainSeal
