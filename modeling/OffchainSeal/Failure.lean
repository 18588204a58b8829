/-!
# Failures

What can go wrong when content is encoded, sealed, opened or decoded. None of
these is transient: each is malformed input or a broken seal.
-/

namespace OffchainSeal

/-- The ways in which sealing and opening fail. -/
inductive Failure where
  /-- A key text or raw key is malformed. -/
  | keyFormat (detail : String)
  /-- The two keys have no usable common point. -/
  | keyAgreement (detail : String)
  /-- The bytes or the text form no envelope. -/
  | envelopeFormat (detail : String)
  /-- The tag of the envelope is not the right one. -/
  | authentication
  /-- The decrypted text names an impossible padding. -/
  | padding (padLength length : Nat)
  /-- The plain text or the document is not content of the requested kind. -/
  | serialization (detail : String)
  /-- The source of random bytes failed. -/
  | randomSource
  deriving DecidableEq, Repr

namespace Failure

/-- The name of the failure for programs. -/
def kind : Failure → String
  | keyFormat _ => "key_format"
  | keyAgreement _ => "key_agreement"
  | envelopeFormat _ => "envelope_format"
  | authentication => "authentication"
  | padding .. => "padding"
  | serialization _ => "serialization"
  | randomSource => "rng"

/-- The wording of the failure. -/
def message : Failure → String
  | keyFormat detail => s!"invalid key format: {detail}"
  | keyAgreement detail => s!"key agreement failed: {detail}"
  | envelopeFormat detail => s!"invalid envelope: {detail}"
  | authentication => "authentication failed: hmac tag mismatch"
  | padding padLength length =>
    s!"invalid padding: pad length {padLength} for {length} byte block"
  | serialization detail => s!"content serialization failed: {detail}"
  | randomSource => "RNG failed"

end Failure
end OffchainSeal
