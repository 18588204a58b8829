import OffchainSeal.Proofs.Sealing.Envelope
import OffchainSeal.Sealing

/-!
# What opening decides

Opening looks at the envelope, the key of the sender, the tag, the padding and the
content, in this order, and the first of them that is wrong decides the failure.

* `openHex_case`: how opening ends, one case for each stage.
* `openContent_decided`: the failures as conditions on the text of the envelope and
  the bytes it stands for.
* `decrypt_parsed`: the cipher text of a parsed envelope is always whole blocks.
* `map_openPayload`: opening a payload is opening content of its kind.
-/

namespace OffchainSeal

open Cipher Digest

/-! ## The conditions -/

/-- The text, blanks around it aside, stands in hexadecimal for these bytes, which are
sixteen times four or more. -/
structure IsEnvelopeText (text : String) (bs : Bytes) : Prop where
  denotes : Hex.Denotes (Text.trim text.toList) bs
  long : 64 ≤ bs.length
  whole : bs.length % 16 = 0

/-- The last 32 bytes are the tag of all bytes before them. -/
def TagVerifies (secret : SharedSecret) (bs : Bytes) : Prop :=
  bs.drop (bs.length - 32) =
    (hmacSha256 secret.tagKey.toList (bs.take (bs.length - 32))).toList

/-- What the bytes between the first 16 and the last 32 decrypt to, padding included. -/
def paddedText (secret : SharedSecret) (bs : Bytes) : Bytes :=
  decryptBlocks secret.cipherKey (Bytes.toVector 16 bs) ((bs.drop 16).take (bs.length - 48))

/-- The last byte names no bytes or more than there are. -/
def WrongPadding (secret : SharedSecret) (bs : Bytes) : Prop :=
  padLength (paddedText secret bs) = 0 ∨ bs.length - 48 < padLength (paddedText secret bs)

/-- What is left of the decrypted bytes without as many as the last one names. -/
def unpaddedText (secret : SharedSecret) (bs : Bytes) : Bytes :=
  (paddedText secret bs).take (bs.length - 48 - padLength (paddedText secret bs))

/-- The text is an envelope of `bs`, the sender is a key, and the two parties have the
secret. -/
structure Reaches (envelope : String) (recipient : PrivateKey) (sender : String) (bs : Bytes)
    (secret : SharedSecret) : Prop where
  envelope : IsEnvelopeText envelope bs
  secret : ∃ key, PublicKey.ofString sender = .ok key ∧
    SharedSecret.derive? recipient key = some secret

theorem IsEnvelopeText.unique {text : String} {bs bs' : Bytes} (h : IsEnvelopeText text bs)
    (h' : IsEnvelopeText text bs') : bs = bs' :=
  h.denotes.unique h'.denotes

theorem Reaches.unique {envelope : String} {recipient : PrivateKey} {sender : String}
    {bs bs' : Bytes} {secret secret' : SharedSecret}
    (h : Reaches envelope recipient sender bs secret)
    (h' : Reaches envelope recipient sender bs' secret') : bs = bs' ∧ secret = secret' := by
  obtain ⟨key, hk, hs⟩ := h.secret
  obtain ⟨key', hk', hs'⟩ := h'.secret
  rw [hk, Except.ok.injEq] at hk'
  rw [← hk', hs, Option.some.injEq] at hs'
  exact ⟨h.envelope.unique h'.envelope, hs'⟩

theorem isEnvelopeText_iff {text : String} {bs : Bytes} :
    IsEnvelopeText text bs ↔ ∃ e : Envelope, Envelope.ofHex text.toList = .ok e ∧
      e.toBytes = bs := by
  constructor
  · intro h
    obtain ⟨e, rfl⟩ := Envelope.exists_toBytes_iff.mpr ⟨h.long, h.whole⟩
    exact ⟨e, Envelope.ofHex_eq_ok_iff.mpr h.denotes, rfl⟩
  · rintro ⟨e, he, rfl⟩
    exact ⟨Envelope.ofHex_eq_ok_iff.mp he, e.toBytes_range.1, e.toBytes_range.2⟩

/-! ## Tag and padding of an envelope -/

theorem decrypt_parsed (key : CipherKey) (e : Envelope) :
    decrypt key e.iv e.cipherText =
      (unpad (decryptBlocks key e.iv e.cipherText)).mapError .padding :=
  decrypt_of_whole e.nonempty e.whole

theorem checkTag_eq (secret : SharedSecret) (e : Envelope)
    [Decidable (TagVerifies secret e.toBytes)] :
    checkTag secret.tagKey.toList e.authenticated e.tag.toList =
      if TagVerifies secret e.toBytes then .ok () else .error .authentication := by
  have h : verifies secret.tagKey.toList e.authenticated e.tag.toList = true ↔
      TagVerifies secret e.toBytes := by
    unfold verifies TagVerifies
    rw [Envelope.take_toBytes, Envelope.drop_toBytes, beq_iff_eq, eq_comm]
  unfold checkTag
  split_ifs with h₁ h₂ h₂
  · rfl
  · exact absurd (h.mp h₁) h₂
  · exact absurd (h.mpr h₂) h₁
  · rfl

theorem paddedText_toBytes (secret : SharedSecret) (e : Envelope) :
    paddedText secret e.toBytes = decryptBlocks secret.cipherKey e.iv e.cipherText := by
  unfold paddedText
  rw [Envelope.toVector_toBytes, Envelope.cipherText_eq]

theorem length_paddedText (secret : SharedSecret) (e : Envelope) :
    (paddedText secret e.toBytes).length = e.toBytes.length - 48 := by
  rw [paddedText_toBytes, length_decryptBlocks e.whole, Envelope.length_cipherText]

open Classical in
theorem openWith_eq (secret : SharedSecret) (e : Envelope) :
    openWith secret e =
      if TagVerifies secret e.toBytes then
        if WrongPadding secret e.toBytes then
          .error (.padding (padLength (paddedText secret e.toBytes)) (e.toBytes.length - 48))
        else .ok (unpaddedText secret e.toBytes)
      else .error .authentication := by
  unfold openWith
  rw [checkTag_eq, decrypt_parsed, ← paddedText_toBytes, unpad_eq, length_paddedText]
  unfold WrongPadding unpaddedText
  split_ifs <;> rfl

theorem agree_of_some {own : PrivateKey} {other : PublicKey} {secret : SharedSecret}
    (h : SharedSecret.derive? own other = some secret) : agree own other = .ok secret := by
  unfold agree
  rw [h]

theorem agree_of_none {own : PrivateKey} {other : PublicKey}
    (h : SharedSecret.derive? own other = none) :
    agree own other = .error (.keyAgreement "shared point has zero x-coordinate") := by
  unfold agree
  rw [h]

/-! ## The stages -/

section Stages

variable (envelope : String) (recipient : PrivateKey) (sender : String)

/-- How opening ends. Each case says what was found right before it and, but for the
last, what was found wrong. -/
inductive OpeningCase : Except Failure Bytes → Prop
  | notEnvelope {detail : String} : (∀ bs, ¬ IsEnvelopeText envelope bs) →
      OpeningCase (.error (.envelopeFormat detail))
  | notKey {bs : Bytes} {detail : String} : IsEnvelopeText envelope bs →
      (∀ key, PublicKey.ofString sender ≠ .ok key) → OpeningCase (.error (.keyFormat detail))
  | noSecret {bs : Bytes} {key : PublicKey} {detail : String} : IsEnvelopeText envelope bs →
      PublicKey.ofString sender = .ok key → SharedSecret.derive? recipient key = none →
      OpeningCase (.error (.keyAgreement detail))
  | wrongTag {bs : Bytes} {secret : SharedSecret} :
      Reaches envelope recipient sender bs secret → ¬ TagVerifies secret bs →
      OpeningCase (.error .authentication)
  | wrongPadding {bs : Bytes} {secret : SharedSecret} :
      Reaches envelope recipient sender bs secret → TagVerifies secret bs →
      WrongPadding secret bs →
      OpeningCase (.error (.padding (padLength (paddedText secret bs)) (bs.length - 48)))
  | opened {bs : Bytes} {secret : SharedSecret} :
      Reaches envelope recipient sender bs secret → TagVerifies secret bs →
      ¬ WrongPadding secret bs → OpeningCase (.ok (unpaddedText secret bs))

theorem openHex_case :
    OpeningCase envelope recipient sender (openHex envelope recipient sender) := by
  unfold openHex
  rcases he : Envelope.ofHex envelope.toList with fault | e
  · refine .notEnvelope fun bs h => ?_
    obtain ⟨e, he', -⟩ := isEnvelopeText_iff.mp h
    rw [he] at he'
    cases he'
  have henv : IsEnvelopeText envelope e.toBytes := isEnvelopeText_iff.mpr ⟨e, he, rfl⟩
  rcases hk : PublicKey.ofString sender with fault | key
  · refine .notKey henv fun key hk' => ?_
    rw [hk] at hk'
    cases hk'
  show OpeningCase envelope recipient sender
    (agree recipient key >>= fun secret => openWith secret e)
  rcases hs : SharedSecret.derive? recipient key with _ | secret
  · rw [agree_of_none hs, Except.error_bind]
    exact .noSecret henv hk hs
  have hreach : Reaches envelope recipient sender e.toBytes secret := ⟨henv, key, hk, hs⟩
  rw [agree_of_some hs, Except.ok_bind, openWith_eq]
  split_ifs with htag hpad
  · exact .wrongPadding hreach htag hpad
  · exact .opened hreach htag hpad
  · exact .wrongTag hreach htag

/-- The answer `out` to the opening of content is decided by these conditions, of which
each stands if the ones before it do not. -/
structure Decided (kind : Content.Kind) (out : Except Failure Content) : Prop where
  envelopeFormat : (∃ detail, out = .error (.envelopeFormat detail)) ↔
    ∀ bs, ¬ IsEnvelopeText envelope bs
  keyFormat : ∀ bs, IsEnvelopeText envelope bs →
    ((∃ detail, out = .error (.keyFormat detail)) ↔ ∀ key, PublicKey.ofString sender ≠ .ok key)
  keyAgreement : ∀ bs key, IsEnvelopeText envelope bs → PublicKey.ofString sender = .ok key →
    ((∃ detail, out = .error (.keyAgreement detail)) ↔ SharedSecret.derive? recipient key = none)
  authentication : ∀ bs secret, Reaches envelope recipient sender bs secret →
    (out = .error .authentication ↔ ¬ TagVerifies secret bs)
  padding : ∀ bs secret, Reaches envelope recipient sender bs secret → TagVerifies secret bs →
    ((∃ padLength length, out = .error (.padding padLength length)) ↔ WrongPadding secret bs)
  content : ∀ bs secret, Reaches envelope recipient sender bs secret → TagVerifies secret bs →
    ¬ WrongPadding secret bs →
    out = (Content.ofBytes kind (unpaddedText secret bs)).mapError Failure.ofWire

/-- The two failures that depend on decrypted bytes come after a tag that verifies. -/
def NoOracle (out : Except Failure Content) : Prop :=
  (∃ padLength length, out = .error (.padding padLength length)) ∨
      (∃ detail, out = .error (.serialization detail)) →
    ∃ bs secret, Reaches envelope recipient sender bs secret ∧ TagVerifies secret bs

end Stages

variable {envelope : String} {recipient : PrivateKey} {sender : String} {kind : Content.Kind}

theorem ofBytes_ok_or_serialization (kind : Content.Kind) (bs : Bytes) :
    (∃ c, (Content.ofBytes kind bs).mapError Failure.ofWire = .ok c) ∨
      ∃ detail, (Content.ofBytes kind bs).mapError Failure.ofWire =
        .error (.serialization detail) := by
  rcases Content.ofBytes kind bs with fault | c
  · exact .inr ⟨fault.message, rfl⟩
  · exact .inl ⟨c, rfl⟩

/-- Each case of `OpeningCase` excludes the conditions of the others, since an envelope stands
for one byte string and two parties have one secret. -/
theorem OpeningCase.decided {out : Except Failure Bytes}
    (h : OpeningCase envelope recipient sender out) :
    Decided envelope recipient sender kind
      (out >>= fun text => (Content.ofBytes kind text).mapError Failure.ofWire) := by
  cases h with
  | notEnvelope h =>
    rw [Except.error_bind]
    constructor <;> grind [Reaches, IsEnvelopeText]
  | notKey henv hk =>
    rw [Except.error_bind]
    constructor <;> grind [Reaches, IsEnvelopeText.unique]
  | noSecret henv hk hs =>
    rw [Except.error_bind]
    constructor <;> grind [Reaches, IsEnvelopeText.unique]
  | wrongTag hr ht =>
    rw [Except.error_bind]
    constructor <;> grind [Reaches, Reaches.unique]
  | wrongPadding hr ht hp =>
    rw [Except.error_bind]
    constructor <;> grind [Reaches, Reaches.unique]
  | @opened bs secret hr ht hp =>
    rw [Except.ok_bind]
    have hread := ofBytes_ok_or_serialization kind (unpaddedText secret bs)
    constructor <;> grind [Reaches, Reaches.unique]

theorem OpeningCase.noOracle {out : Except Failure Bytes}
    (h : OpeningCase envelope recipient sender out) :
    NoOracle envelope recipient sender
      (out >>= fun text => (Content.ofBytes kind text).mapError Failure.ofWire) := by
  rintro (⟨p, l, e⟩ | ⟨detail, e⟩)
  all_goals
    cases h with
    | wrongPadding hr ht _ => exact ⟨_, _, hr, ht⟩
    | opened hr ht _ => exact ⟨_, _, hr, ht⟩
    | _ => cases e

/-! ## Opening content and payloads -/

/-- Opening a payload gives what opening content of its kind gives, if reading them does. -/
theorem map_openPayload {α : Type} [Payload α] (wrap : α → Content)
    (h : ∀ text, (Payload.ofBytes text).map wrap = Content.ofBytes (Payload.kind α) text) :
    (openPayload envelope recipient sender).map wrap =
      openContent envelope recipient sender (Payload.kind α) := by
  unfold openPayload openContent
  rcases openHex envelope recipient sender with failure | text
  · rfl
  · rw [Except.ok_bind, Except.ok_bind, ← h text]
    rcases (Payload.ofBytes text : Except Wire.Fault α) with fault | a <;> rfl

theorem openPayload_of_openContent {α : Type} [Payload α] {wrap : α → Content} {a : α}
    (h : ∀ text, (Payload.ofBytes text).map wrap = Content.ofBytes (Payload.kind α) text)
    (hwrap : Function.Injective wrap)
    (hopen : openContent envelope recipient sender (Payload.kind α) = .ok (wrap a)) :
    openPayload envelope recipient sender = .ok a := by
  obtain ⟨a', ha', heq⟩ := Except.map_eq_ok_iff.mp ((map_openPayload wrap h).trans hopen)
  rw [ha', hwrap heq]

/-- Opening content is decided stage by stage; padding and content are looked at only
after the tag; the cipher's own checks of the length never fail on what was parsed;
and opening a payload gives the same answer as opening content of its kind. -/
theorem openContent_decided (envelope : String) (recipient : PrivateKey) (sender : String) :
    (∀ kind, Decided envelope recipient sender kind (openContent envelope recipient sender kind) ∧
        NoOracle envelope recipient sender (openContent envelope recipient sender kind)) ∧
      (∀ framed e key, Envelope.parse framed = .ok e →
        (∀ length, decrypt key e.iv e.cipherText ≠ .error (.misaligned length)) ∧
          decrypt key e.iv e.cipherText ≠ .error .partialBlock) ∧
      (openPayload envelope recipient sender : Except Failure FundsRequest).map .fundsRequest =
        openContent envelope recipient sender .fundsRequest ∧
      (openPayload envelope recipient sender : Except Failure TransferRecord).map .transferRecord =
        openContent envelope recipient sender .transferRecord := by
  have hcase := openHex_case envelope recipient sender
  refine ⟨fun kind => ⟨hcase.decided, hcase.noOracle⟩, ?_,
    map_openPayload .fundsRequest fun _ => rfl, map_openPayload .transferRecord fun _ => rfl⟩
  intro framed e key _
  rw [decrypt_parsed]
  constructor
  · intro length h
    obtain ⟨fault, -, h⟩ := Except.mapError_eq_error_iff.mp h
    cases h
  · intro h
    obtain ⟨fault, -, h⟩ := Except.mapError_eq_error_iff.mp h
    cases h

end OffchainSeal
