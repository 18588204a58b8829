import OffchainSeal.Proofs.Sealing.RoundTrip

/-!
# The bytes of a sealed text

A text is sealed as the initial vector, sixteen bytes for each block that it fills and for
one more, and the tag of all bytes before.

* `openBytes_of_framed`, `openBytes_of_not_framed`: what opening makes of any bytes.
* `length_sealWith`, `take_sealWith`, `tagVerifies_sealWith`: the layout of sealed bytes.
* `bytes_round_trip`: sealing always succeeds, and either party opens what was sealed.
-/

namespace OffchainSeal

open Cipher Digest

/-! ## Opening any bytes -/

section Opening

variable {own : PrivateKey} {other : PublicKey} {secret : SharedSecret} {bs : Bytes}

theorem sealBytesWith_of_secret (hs : SharedSecret.derive? own other = some secret) (iv : Block)
    (text : Bytes) : sealBytesWith own other iv text = .ok (sealWith secret iv text) := by
  show (agree own other >>= fun secret => .ok (sealWith secret iv text)) = _
  rw [agree_of_some hs, Except.ok_bind]

theorem openBytes_toBytes (hs : SharedSecret.derive? own other = some secret) (e : Envelope) :
    openBytes own other e.toBytes = openWith secret e := by
  have hparse : Envelope.parse e.toBytes = .ok e := Envelope.parse_eq_ok_iff.mpr rfl
  unfold openBytes
  rw [hparse]
  show (agree own other >>= fun secret => openWith secret e) = _
  rw [agree_of_some hs, Except.ok_bind]

/-- Bytes that are no envelope are refused before anything else is looked at. -/
theorem openBytes_of_not_framed (h : bs.length < 64 ∨ bs.length % 16 ≠ 0) :
    ∃ detail, openBytes own other bs = .error (.envelopeFormat detail) := by
  rcases hparse : Envelope.parse bs with fault | e
  · refine ⟨fault.message, ?_⟩
    unfold openBytes
    rw [hparse]
    rfl
  · have hlen := Envelope.exists_toBytes_iff.mp ⟨e, Envelope.toBytes_of_parse hparse⟩
    omega

open Classical in
/-- Bytes that are an envelope are decided by the tag first and then by the padding. -/
theorem openBytes_of_framed (hs : SharedSecret.derive? own other = some secret)
    (hlen : 64 ≤ bs.length) (hmod : bs.length % 16 = 0) :
    openBytes own other bs =
      if TagVerifies secret bs then
        if WrongPadding secret bs then
          .error (.padding (padLength (paddedText secret bs)) (bs.length - 48))
        else .ok (unpaddedText secret bs)
      else .error .authentication := by
  obtain ⟨e, rfl⟩ := Envelope.exists_toBytes_iff.mpr ⟨hlen, hmod⟩
  rw [openBytes_toBytes hs, openWith_eq]

theorem openBytes_eq_authentication_iff (hs : SharedSecret.derive? own other = some secret)
    (hlen : 64 ≤ bs.length) (hmod : bs.length % 16 = 0) :
    openBytes own other bs = .error .authentication ↔ ¬ TagVerifies secret bs := by
  rw [openBytes_of_framed hs hlen hmod]
  split_ifs with htag hpad <;> simp [htag]

/-- That bytes are no envelope is said of those alone whose length shows it. -/
theorem openBytes_eq_envelopeFormat_iff (hs : SharedSecret.derive? own other = some secret) :
    (∃ detail, openBytes own other bs = .error (.envelopeFormat detail)) ↔
      bs.length < 64 ∨ bs.length % 16 ≠ 0 := by
  constructor
  · rintro ⟨detail, h⟩
    by_contra hcon
    push Not at hcon
    rw [openBytes_of_framed hs hcon.1 hcon.2] at h
    split_ifs at h <;> cases h
  · exact openBytes_of_not_framed

end Opening

/-! ## The layout of sealed bytes -/

section Layout

variable (secret : SharedSecret) (iv : Block) (text : Bytes)

theorem length_sealWith : (sealWith secret iv text).length = 64 + 16 * (text.length / 16) := by
  rw [← toBytes_sealedEnvelope, Envelope.length_toBytes]
  show 16 + (encrypt secret.cipherKey iv text).length + 32 = _
  rw [length_encrypt]
  unfold missing blockSize
  omega

theorem take_sealWith : (sealWith secret iv text).take 16 = iv.toList := by
  rw [← toBytes_sealedEnvelope, Envelope.toBytes_eq]
  exact List.take_left' Vector.length_toList

theorem tagVerifies_sealWith : TagVerifies secret (sealWith secret iv text) := by
  unfold TagVerifies
  rw [← toBytes_sealedEnvelope, Envelope.drop_toBytes, Envelope.take_toBytes]
  rfl

theorem openBytes_sealWith {own : PrivateKey} {other : PublicKey} {secret : SharedSecret}
    (hs : SharedSecret.derive? own other = some secret) (iv : Block) (text : Bytes) :
    openBytes own other (sealWith secret iv text) = .ok text := by
  rw [← toBytes_sealedEnvelope, openBytes_toBytes hs, openWith_sealed]

end Layout

/-- Bytes of any length are sealed, under any initial vector, for the holder of any key. What
comes of it has one block more than the text fills, begins with the vector and ends with the
tag of all that is before; it parses, and both the recipient and the sender open it to the
bytes that were sealed. -/
theorem bytes_round_trip (a b : PrivateKey) (iv : Block) (text : Bytes) :
    ∃ secret framed, SharedSecret.derive? a b.publicKey = some secret ∧
      sealBytesWith a b.publicKey iv text = .ok framed ∧
      framed.length = 64 + 16 * (text.length / 16) ∧
      framed.take 16 = iv.toList ∧
      framed.drop (framed.length - 32) =
        (hmacSha256 secret.tagKey.toList (framed.take (framed.length - 32))).toList ∧
      (∃ e, Envelope.parse framed = .ok e) ∧
      openBytes b a.publicKey framed = .ok text ∧
      openBytes a b.publicKey framed = .ok text := by
  obtain ⟨secret, hs, hs'⟩ := SharedSecret.exists_common a b
  have hparse : Envelope.parse (sealWith secret iv text) = .ok (sealedEnvelope secret iv text) :=
    Envelope.parse_eq_ok_iff.mpr (toBytes_sealedEnvelope secret iv text)
  exact ⟨secret, sealWith secret iv text, hs, sealBytesWith_of_secret hs iv text,
    length_sealWith secret iv text, take_sealWith secret iv text,
    tagVerifies_sealWith secret iv text, ⟨_, hparse⟩, openBytes_sealWith hs' iv text,
    openBytes_sealWith hs iv text⟩

end OffchainSeal
