import OffchainSeal.Proofs.Sealing.Framing

/-!
# Any two keys agree

Sealing and opening stop with `keyAgreement` if the common point of the two keys is at
infinity or has a first coordinate of zero. Neither happens with keys: a private key is a
number from one up to the prime order of the group, a public key is a finite point of the curve,
and seven is not a square modulo the prime of the field.

* `agree_of_multiple`: the secret comes from the common point.
* `NeverDisagrees`: this failure does not arise, with one lemma for each kind of step.
* `keys_agree`: it arises nowhere, and sealing bytes does not fail at all.
-/

namespace OffchainSeal

open Cipher Curve

/-! ## The common point -/

/-- The secret is the stretched first coordinate of the common point. -/
theorem agree_of_multiple {own : PrivateKey} {other : PublicKey} {x y : FieldElement}
    (h : Point.multiple own.scalar other.toPoint = .affine x y) (hcurve : OnCurve x y) :
    agree own other = .ok (.ofDigest (Digest.sha512 (Bytes.ofNat 32 x.val))) := by
  apply agree_of_some
  unfold SharedSecret.derive?
  rw [agree?_of_multiple h hcurve]
  rfl

/-! ## Steps that do not disagree -/

/-- The outcome is not the failure of two keys to agree. -/
def NeverDisagrees {α : Type} (outcome : Except Failure α) : Prop :=
  ∀ detail, outcome ≠ .error (.keyAgreement detail)

namespace NeverDisagrees

variable {α β ε : Type}

theorem ok (a : α) : NeverDisagrees (.ok a) := by
  intro detail h
  cases h

theorem bind {x : Except Failure α} {f : α → Except Failure β} (hx : NeverDisagrees x)
    (hf : ∀ a, NeverDisagrees (f a)) : NeverDisagrees (x >>= f) := by
  cases x with
  | ok a => exact hf a
  | error failure =>
    intro detail h
    exact hx detail (congrArg Except.error (Except.error.inj h))

/-- Faults of other kinds are other failures. -/
theorem mapError {x : Except ε α} {f : ε → Failure} (hf : ∀ e detail, f e ≠ .keyAgreement detail) :
    NeverDisagrees (x.mapError f) := by
  intro detail h
  obtain ⟨e, -, he⟩ := Except.mapError_eq_error_iff.mp h
  exact hf e detail he

theorem ofKey {x : Except Key.Fault α} : NeverDisagrees (x.mapError .ofKey) :=
  mapError fun _ _ h => by cases h

theorem ofEnvelope {x : Except Envelope.Fault α} : NeverDisagrees (x.mapError .ofEnvelope) :=
  mapError fun _ _ h => by cases h

theorem ofWire {x : Except Wire.Fault α} : NeverDisagrees (x.mapError .ofWire) :=
  mapError fun _ _ h => by cases h

theorem ofCbc {x : Except CbcFault α} : NeverDisagrees (x.mapError .ofCbc) :=
  mapError fun e _ h => by cases e <;> cases h

/-! ## Sealing and opening -/

section

variable (own : PrivateKey) (other : PublicKey)

theorem agree : NeverDisagrees (agree own other) := by
  obtain ⟨secret, hs⟩ := SharedSecret.exists_derive? own other
  rw [agree_of_some hs]
  exact ok secret

theorem openEnvelope (e : Envelope) : NeverDisagrees (openEnvelope own other e) := by
  refine (agree own other).bind fun secret => ?_
  have htag : NeverDisagrees (checkTag secret.tagKey.toList e.authenticated e.tag.toList) := by
    intro detail h
    unfold checkTag at h
    split_ifs at h
    cases h
  exact htag.bind fun _ => ofCbc

theorem openBytes (framed : Bytes) : NeverDisagrees (openBytes own other framed) :=
  ofEnvelope.bind (openEnvelope own other)

theorem sealBytes (iv? : Option Block) (text : Bytes) :
    NeverDisagrees (sealBytes own other iv? text) := by
  cases iv? with
  | none =>
    intro detail h
    cases h
  | some iv => exact (agree own other).bind fun secret => ok _

end

section

variable (own : PrivateKey) (other : String)

theorem openHex (envelope : String) : NeverDisagrees (openHex envelope own other) :=
  ofEnvelope.bind fun e => ofKey.bind fun key => openEnvelope own key e

theorem sealHex (iv? : Option Block) (text : Bytes) :
    NeverDisagrees (sealHex own other iv? text) :=
  ofKey.bind fun key => (sealBytes own key iv? text).bind fun _ => ok _

end

end NeverDisagrees

/-! ## Main result -/

/-- The common point of any private and any public key is a finite point of the curve; no point
of the curve has a first coordinate of zero, so the two keys have a secret. Therefore bytes are
always sealed, and wherever bytes, texts or content are sealed or opened it does not fail because
two keys do not agree. -/
theorem keys_agree (own : PrivateKey) (other : PublicKey) :
    (∀ y, ¬ OnCurve 0 y) ∧
      (∃ x y, Point.multiple own.scalar other.toPoint = .affine x y ∧ OnCurve x y ∧ x ≠ 0 ∧
        agree own other = .ok (.ofDigest (Digest.sha512 (Bytes.ofNat 32 x.val)))) ∧
      (∀ iv text, ∃ framed, sealBytesWith own other iv text = .ok framed) ∧
      (∀ framed, NeverDisagrees (openBytes own other framed)) ∧
      (∀ sender envelope, NeverDisagrees (openHex envelope own sender)) ∧
      (∀ recipient iv? text, NeverDisagrees (sealHex own recipient iv? text)) ∧
      (∀ c recipient iv?, NeverDisagrees (sealContent c own recipient iv?)) ∧
      ∀ envelope sender kind, NeverDisagrees (openContent envelope own sender kind) := by
  obtain ⟨x, y, hpoint, hcurve⟩ := exists_multiple own other
  have hagree := agree_of_multiple hpoint hcurve
  refine ⟨not_onCurve_zero, ⟨x, y, hpoint, hcurve, hcurve.ne_zero, hagree⟩, fun iv text => ?_,
    NeverDisagrees.openBytes own other, fun sender envelope => .openHex own sender envelope,
    fun recipient => .sealHex own recipient, fun c recipient iv? => ?_,
    fun envelope sender kind => ?_⟩
  · unfold sealBytesWith
    rw [hagree]
    exact ⟨_, rfl⟩
  · exact .bind .ofWire fun text => .sealHex own recipient iv? text
  · exact .bind (.openHex own sender envelope) fun text => .ofWire

end OffchainSeal
