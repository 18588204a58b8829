import OffchainSeal.Proofs.Content.Form
import OffchainSeal.Proofs.Key.Agreement
import OffchainSeal.Proofs.Sealing.Opening
import OffchainSeal.Proofs.Text.Blank

/-!
# Opening what was sealed

* `openWith_sealed`: an envelope sealed under a secret opens to its text under it.
* `openHex_sealHex`: the same for texts, in either case and with blanks around them.
* `content_round_trip`: content and payloads through the whole pipeline, and when
  sealing fails.
-/

namespace OffchainSeal

open Cipher Digest

/-! ## Envelopes -/

/-- The envelope that a text is sealed in. -/
def sealedEnvelope (secret : SharedSecret) (iv : Block) (text : Bytes) : Envelope where
  iv
  cipherText := encrypt secret.cipherKey iv text
  tag := hmacSha256 secret.tagKey.toList
    (authenticatedData iv (encrypt secret.cipherKey iv text))
  nonempty := length_encrypt_pos _ iv text
  whole := encrypt_whole _ iv text

theorem toBytes_sealedEnvelope (secret : SharedSecret) (iv : Block) (text : Bytes) :
    (sealedEnvelope secret iv text).toBytes = sealWith secret iv text := rfl

/-- An envelope opens to the text that was sealed in it. -/
theorem openWith_sealed (secret : SharedSecret) (iv : Block) (text : Bytes) :
    openWith secret (sealedEnvelope secret iv text) = .ok text := by
  have htag : checkTag secret.tagKey.toList (sealedEnvelope secret iv text).authenticated
      (sealedEnvelope secret iv text).tag.toList = .ok () := by
    unfold checkTag verifies
    exact if_pos (beq_iff_eq.mpr rfl)
  unfold openWith
  rw [htag, Except.ok_bind]
  show (decrypt secret.cipherKey iv (encrypt secret.cipherKey iv text)).mapError Failure.ofCbc =
    .ok text
  rw [decrypt_encrypt]
  rfl

/-! ## Texts -/

/-- The text `h'` is `h` with some of its letters in upper case and blanks around it. -/
def Respelled (h h' : String) : Prop :=
  ∃ front cs back, h'.toList = front ++ cs ++ back ∧
    (∀ c ∈ front, Text.isBlank c = true) ∧ (∀ c ∈ back, Text.isBlank c = true) ∧
    List.Forall₂ (fun c c' => c' = c ∨ c' = c.toUpper) h.toList cs

theorem trim_respelled {bs : Bytes} {h h' : String} (hd : Hex.Denotes h.toList bs)
    (hr : Respelled h h') : Hex.Denotes (Text.trim h'.toList) bs := by
  obtain ⟨front, cs, back, e, hf, hb, hcs⟩ := hr
  have hd' := hd.toUpper hcs
  rw [e, Text.trim_append_of_forall hf hb hd'.not_blank]
  exact hd'

section Parties

variable {a b : PrivateKey} {pubA pubB : PublicKey} {sA sB : String}

/-- What sealing as a text gives, and that it gives it. -/
theorem sealHex_eq_ok_iff {iv? : Option Block} {text : Bytes} {h : String} :
    sealHex a sB iv? text = .ok h ↔
      ∃ key iv secret, PublicKey.ofString sB = .ok key ∧ iv? = some iv ∧
        SharedSecret.derive? a key = some secret ∧
        h = Hex.encodeText (sealWith secret iv text) := by
  unfold sealHex
  constructor
  · intro hs
    obtain ⟨key, hk, hs⟩ := Except.bind_eq_ok_iff.mp hs
    obtain ⟨framed, hf, hs⟩ := Except.bind_eq_ok_iff.mp hs
    rw [Except.mapError_eq_ok_iff] at hk
    cases iv? with
    | none => cases hf
    | some iv =>
      obtain ⟨secret, hsec, hw⟩ := Except.bind_eq_ok_iff.mp hf
      rcases hd : SharedSecret.derive? a key with _ | secret'
      · rw [agree_of_none hd] at hsec
        cases hsec
      · rw [agree_of_some hd, Except.ok.injEq] at hsec
        cases hw
        cases hs
        exact ⟨key, iv, secret', hk, rfl, hd, by rw [hsec]⟩
  · rintro ⟨key, iv, secret, hk, rfl, hd, rfl⟩
    rw [hk]
    show (agree a key >>= fun secret => .ok (sealWith secret iv text)) >>= _ = _
    rw [agree_of_some hd]
    rfl

/-- A sealed text is opened by the other party, however its letters are spelt. -/
theorem openHex_sealHex {iv? : Option Block} {text : Bytes} {h h' : String}
    (hagree : SharedSecret.derive? b pubA = SharedSecret.derive? a pubB)
    (hA : PublicKey.ofString sA = .ok pubA) (hB : PublicKey.ofString sB = .ok pubB)
    (hs : sealHex a sB iv? text = .ok h) (hr : Respelled h h') :
    openHex h' b sA = .ok text := by
  obtain ⟨key, iv, secret, hk, -, hd, rfl⟩ := sealHex_eq_ok_iff.mp hs
  rw [hB, Except.ok.injEq] at hk
  rw [← hk, ← hagree] at hd
  have hhex : Envelope.ofHex h'.toList = .ok (sealedEnvelope secret iv text) :=
    Envelope.ofHex_eq_ok_iff.mpr (trim_respelled (Hex.denotes_encodeText _) hr)
  unfold openHex
  rw [hhex, hA]
  show (agree b pubA >>= fun secret => openWith secret _) = _
  rw [agree_of_some hd, Except.ok_bind, openWith_sealed]

end Parties

/-! ## Content and payloads -/

theorem Content.ofBytes_of_toBytes {c : Content} {bs : Bytes} (h : c.toBytes = .ok bs) :
    Content.ofBytes c.kind bs = .ok c := by
  obtain ⟨hfits, rfl⟩ := Content.toBytes_eq_ok_iff.mp h
  exact Content.ofBytes_eq_ok_iff.mpr ⟨rfl, hfits.exists_hasForm⟩

/-- The text `h` comes of sealing the content, or the payload in it. -/
def Seals (c : Content) (a : PrivateKey) (sB : String) (iv? : Option Block) (h : String) : Prop :=
  sealContent c a sB iv? = .ok h ∨
    match c with
    | .fundsRequest r => sealPayload r a sB iv? = .ok h
    | .transferRecord r => sealPayload r a sB iv? = .ok h

/-- Opened as content of its kind, `h` gives the content, and opened as a payload of its
type, the payload in it. -/
def OpensTo (h : String) (b : PrivateKey) (sA : String) (c : Content) : Prop :=
  openContent h b sA c.kind = .ok c ∧
    match c with
    | .fundsRequest r => openPayload h b sA = .ok r
    | .transferRecord r => openPayload h b sA = .ok r

variable {a b : PrivateKey} {sA sB : String} {c : Content} {iv? : Option Block} {h : String}

/-- Sealing a payload is sealing it as content. -/
theorem seals_iff : Seals c a sB iv? h ↔ sealContent c a sB iv? = .ok h := by
  unfold Seals
  cases c <;> exact or_self_iff

theorem opensTo_iff : OpensTo h b sA c ↔ openContent h b sA c.kind = .ok c := by
  unfold OpensTo
  refine and_iff_left_of_imp fun ho => ?_
  cases c with
  | fundsRequest r =>
    exact openPayload_of_openContent (fun _ => rfl) (fun _ _ => Content.fundsRequest.inj) ho
  | transferRecord r =>
    exact openPayload_of_openContent (fun _ => rfl) (fun _ _ => Content.transferRecord.inj) ho

theorem sealContent_eq_ok_iff :
    sealContent c a sB iv? = .ok h ↔
      ∃ text, c.toBytes = .ok text ∧ sealHex a sB iv? text = .ok h := by
  unfold sealContent
  rw [Except.bind_eq_ok_iff]
  simp only [Except.mapError_eq_ok_iff]

/-- Content is opened by the other party as it was sealed. -/
theorem openContent_sealContent {pubA pubB : PublicKey} {h' : String}
    (hagree : SharedSecret.derive? b pubA = SharedSecret.derive? a pubB)
    (hA : PublicKey.ofString sA = .ok pubA) (hB : PublicKey.ofString sB = .ok pubB)
    (hs : sealContent c a sB iv? = .ok h) (hr : Respelled h h') :
    openContent h' b sA c.kind = .ok c := by
  obtain ⟨text, htext, hs⟩ := sealContent_eq_ok_iff.mp hs
  unfold openContent
  rw [openHex_sealHex hagree hA hB hs hr, Except.ok_bind, Content.ofBytes_of_toBytes htext]
  rfl

theorem sealContent_ok_of_fits (hfits : c.toRow.Fits) {key : PublicKey}
    (hk : PublicKey.ofString sB = .ok key) (iv : Block) :
    ∃ h, sealContent c a sB (some iv) = .ok h := by
  obtain ⟨secret, hd⟩ := SharedSecret.exists_derive? a key
  have htext := Content.toBytes_eq_ok_iff.mpr ⟨hfits, rfl⟩
  exact ⟨_, sealContent_eq_ok_iff.mpr ⟨_, htext,
    sealHex_eq_ok_iff.mpr ⟨key, iv, secret, hk, rfl, hd, rfl⟩⟩⟩

/-- Sealing fails exactly at a present text of `2 ^ 32` bytes or more, at a recipient that
is no key, and without an initial vector. -/
theorem sealContent_fails_iff :
    (∃ failure, sealContent c a sB iv? = .error failure) ↔
      (∃ m ∈ c.toRow.present, 2 ^ 32 ≤ (Wire.textBody m.2).length) ∨
        (∀ key, PublicKey.ofString sB ≠ .ok key) ∨ iv? = none := by
  have hlong : (∃ m ∈ c.toRow.present, 2 ^ 32 ≤ (Wire.textBody m.2).length) ↔
      ¬ c.toRow.Fits := by
    unfold Content.Row.Fits
    push Not
    rfl
  rw [hlong, Except.exists_error_iff]
  constructor
  · intro hfail
    by_contra hcon
    push Not at hcon
    obtain ⟨hfits, ⟨key, hk⟩, hiv⟩ := hcon
    obtain ⟨iv, rfl⟩ := Option.ne_none_iff_exists'.mp hiv
    obtain ⟨h, hs⟩ := sealContent_ok_of_fits hfits hk iv
    exact hfail h hs
  · intro hcause h hs
    obtain ⟨text, htext, hs⟩ := sealContent_eq_ok_iff.mp hs
    obtain ⟨key, iv, secret, hk, hiv, -, -⟩ := sealHex_eq_ok_iff.mp hs
    rcases hcause with hfits | hnone | hsource
    · exact hfits (Content.toBytes_eq_ok_iff.mp htext).1
    · exact hnone key hk
    · rw [hsource] at hiv
      cases hiv

/-- Whatever is sealed for the holder of a key, as content or as a payload, is opened by
that holder as it was sealed, with the letters of the envelope in either case and blanks
around it. Sealing fails at texts that are too long, at a recipient that is no key, and at
the random source only. -/
theorem content_round_trip (a b : PrivateKey) (sA sB : String) (c : Content)
    (iv? : Option Block) :
    (PublicKey.ofString sA = .ok a.publicKey → PublicKey.ofString sB = .ok b.publicKey →
        ∀ h h', Seals c a sB iv? h → Respelled h h' → OpensTo h' b sA c) ∧
      ((∃ failure, sealContent c a sB iv? = .error failure) →
        (∃ m ∈ c.toRow.present, 2 ^ 32 ≤ (Wire.textBody m.2).length) ∨
          (∀ key, PublicKey.ofString sB ≠ .ok key) ∨ iv? = none) := by
  refine ⟨fun hA hB h h' hs hr => ?_, sealContent_fails_iff.mp⟩
  exact opensTo_iff.mpr (openContent_sealContent (SharedSecret.derive?_comm b a) hA hB
    (seals_iff.mp hs) hr)

/-- The holders of the private keys 1 and 2 exchange a request. -/
theorem content_round_trip_one_two :
    let a : PrivateKey := ⟨1, by decide, by decide⟩
    let b : PrivateKey := ⟨2, by decide, by decide⟩
    let sA := "FIO5p78kHbL33Rn3JWkTWRE2B9uz6gy4r1KbfAKLNQGE3ovMBS5bu"
    let sB := "FIO6PhSs6H49U1Lb6vz9GDtUF9RjtpFpkS6Rxm94LumQrnD1YqfSG"
    let c := Content.fundsRequest ⟨"purse.alice", "1", "FIO", "FIO", some "für Bob", none, none⟩
    let iv := Vector.replicate 16 0
    PublicKey.ofString sA = .ok a.publicKey ∧ PublicKey.ofString sB = .ok b.publicKey ∧
      ∃ h, Seals c a sB (some iv) h ∧ ∀ h', Respelled h h' → OpensTo h' b sA c := by
  intro a b sA sB c iv
  obtain ⟨hA, hB, hbytes⟩ : PublicKey.ofString sA = .ok a.publicKey ∧
      PublicKey.ofString sB = .ok b.publicKey ∧ c.toBytes = .ok c.toRow.form := by
    decide +kernel
  have hfits : c.toRow.Fits := (Content.toBytes_eq_ok_iff.mp hbytes).1
  obtain ⟨h, hs⟩ := sealContent_ok_of_fits hfits hB iv
  refine ⟨hA, hB, h, seals_iff.mpr hs, fun h' hr => ?_⟩
  exact (content_round_trip a b sA sB c (some iv)).1 hA hB h h' (seals_iff.mpr hs) hr

end OffchainSeal
