import OffchainSeal.Proofs.Sealing.Framing

/-!
# Changed envelopes

Every byte of an envelope is covered by its tag or part of it. Whoever changes an envelope
so that it is still opened has found a second message with the same tag.

* `TagVerifies.eq_of_covered`: bytes that verify are determined by what their tag covers.
* `detects_of_ne`: how any other bytes in the place of an envelope are answered.
* `tampering_detected`: the same for the envelope that one party seals and the other opens.
-/

namespace OffchainSeal

open Cipher Digest

/-! ## Covered bytes and tag -/

/-- The bytes that the tag at the end covers. -/
def coveredPart (bs : Bytes) : Bytes :=
  bs.take (bs.length - 32)

/-- The tag at the end. -/
def tagPart (bs : Bytes) : Bytes :=
  bs.drop (bs.length - 32)

theorem coveredPart_append_tagPart (bs : Bytes) : coveredPart bs ++ tagPart bs = bs :=
  List.take_append_drop _ _

theorem tagVerifies_iff {secret : SharedSecret} {bs : Bytes} :
    TagVerifies secret bs ↔
      tagPart bs = (hmacSha256 secret.tagKey.toList (coveredPart bs)).toList := Iff.rfl

/-- There is one tag for each message. -/
theorem TagVerifies.eq_of_covered {secret : SharedSecret} {bs bs' : Bytes}
    (h : TagVerifies secret bs) (h' : TagVerifies secret bs')
    (hcovered : coveredPart bs = coveredPart bs') : bs = bs' := by
  have htag : tagPart bs = tagPart bs' := by
    rw [tagVerifies_iff.mp h, tagVerifies_iff.mp h', hcovered]
  rw [← coveredPart_append_tagPart bs, hcovered, htag, coveredPart_append_tagPart]

/-- Two different messages with the same tag under a key. -/
structure Collide (key message message' : Bytes) : Prop where
  ne : message ≠ message'
  tag : hmacSha256 key message = hmacSha256 key message'

/-! ## Detection -/

/-- How the opening of `changed` in the place of the envelope `framed` is answered. -/
structure Detects (secret : SharedSecret) (framed changed : Bytes)
    (answer : Except Failure Bytes) : Prop where
  /-- Bytes of a length that no envelope has are refused as such, and no others are. -/
  notFramed : (∃ detail, answer = .error (.envelopeFormat detail)) ↔
    changed.length < 64 ∨ changed.length % 16 ≠ 0
  /-- A change of the tag alone is always found. -/
  otherTag : changed.length = framed.length → coveredPart changed = coveredPart framed →
    answer = .error .authentication
  /-- A change that keeps the tag is found, or two messages have this tag. -/
  sameTag : 64 ≤ changed.length → changed.length % 16 = 0 → tagPart changed = tagPart framed →
    answer ≠ .error .authentication →
      Collide secret.tagKey.toList (coveredPart framed) (coveredPart changed)

section Detection

variable {own : PrivateKey} {other : PublicKey} {secret : SharedSecret} {framed changed : Bytes}

theorem collide_of_tagPart (hframed : TagVerifies secret framed)
    (hchanged : TagVerifies secret changed) (hne : changed ≠ framed)
    (htag : tagPart changed = tagPart framed) :
    Collide secret.tagKey.toList (coveredPart framed) (coveredPart changed) where
  ne := fun h => hne (hchanged.eq_of_covered hframed h.symm)
  tag := by
    rw [tagVerifies_iff] at hframed hchanged
    apply Vector.toList_inj.mp
    rw [← hframed, ← hchanged, htag]

/-- Bytes that verify are the envelope itself or go with another covered part. -/
theorem detects_of_ne (hs : SharedSecret.derive? own other = some secret)
    (hframed : TagVerifies secret framed) (hlen : 64 ≤ framed.length)
    (hmod : framed.length % 16 = 0) (hne : changed ≠ framed) :
    Detects secret framed changed (openBytes own other changed) where
  notFramed := openBytes_eq_envelopeFormat_iff hs
  otherTag := by
    intro hlength hcovered
    rw [openBytes_eq_authentication_iff hs (by omega) (by omega)]
    intro hchanged
    exact hne (hchanged.eq_of_covered hframed hcovered)
  sameTag := by
    intro hlen' hmod' htag hanswer
    rw [Ne, openBytes_eq_authentication_iff hs hlen' hmod', not_not] at hanswer
    exact collide_of_tagPart hframed hanswer hne htag

end Detection

/-! ## Flipped bits -/

/-- The bytes with those bits flipped that are set in `mask`. -/
def flipBits (mask bs : Bytes) : Bytes :=
  List.zipWith (· ^^^ ·) mask bs

theorem length_flipBits {mask bs : Bytes} (h : mask.length = bs.length) :
    (flipBits mask bs).length = bs.length := by
  unfold flipBits
  rw [List.length_zipWith, h, Nat.min_self]

/-- Flipping one bit or more changes the bytes. -/
theorem flipBits_ne {mask bs : Bytes} (h : mask.length = bs.length) (hset : ∃ m ∈ mask, m ≠ 0) :
    flipBits mask bs ≠ bs := by
  obtain ⟨m, hm, hm₀⟩ := hset
  obtain ⟨i, hi, rfl⟩ := List.getElem_of_mem hm
  intro heq
  have hi' : i < bs.length := h ▸ hi
  have hlen : i < (List.zipWith (· ^^^ ·) mask bs).length := by
    rw [List.length_zipWith]
    omega
  have hbyte : mask[i] ^^^ bs[i] = 0 ^^^ bs[i] := by
    rw [UInt8.zero_xor, ← List.getElem_zipWith (h := hlen)]
    exact List.getElem_of_eq heq hlen
  exact hm₀ ((UInt8.xor_left_inj _).mp hbyte)

/-- Of the envelope that one party seals for the other no change goes unnoticed, unless two
messages have the same tag. Flipped bits leave an envelope, which is refused for its tag
unless that tag is the right one for the bytes before it. -/
theorem tampering_detected (a b : PrivateKey) (iv : Block) (text : Bytes) :
    ∃ secret framed, SharedSecret.derive? a b.publicKey = some secret ∧
      SharedSecret.derive? b a.publicKey = some secret ∧
      sealBytesWith a b.publicKey iv text = .ok framed ∧
      (∀ changed, changed ≠ framed →
        Detects secret framed changed (openBytes b a.publicKey changed)) ∧
      ∀ mask, mask.length = framed.length → (∃ m ∈ mask, m ≠ 0) →
        flipBits mask framed ≠ framed ∧
        (∀ detail, openBytes b a.publicKey (flipBits mask framed) ≠
          .error (.envelopeFormat detail)) ∧
        (openBytes b a.publicKey (flipBits mask framed) = .error .authentication ↔
          ¬ TagVerifies secret (flipBits mask framed)) := by
  obtain ⟨secret, hs, hs'⟩ := SharedSecret.exists_common a b
  have hlen := length_sealWith secret iv text
  refine ⟨secret, sealWith secret iv text, hs, hs', sealBytesWith_of_secret hs iv text, ?_, ?_⟩
  · intro changed hne
    exact detects_of_ne hs' (tagVerifies_sealWith secret iv text) (by omega) (by omega) hne
  · intro mask hmask hset
    have hlen' := length_flipBits hmask
    refine ⟨flipBits_ne hmask hset, ?_, ?_⟩
    · intro detail h
      have := (openBytes_eq_envelopeFormat_iff hs').mp ⟨detail, h⟩
      omega
    · exact openBytes_eq_authentication_iff hs' (by omega) (by omega)

end OffchainSeal
