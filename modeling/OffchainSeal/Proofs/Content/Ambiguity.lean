import OffchainSeal.Proofs.Content.Form
import OffchainSeal.Sealing

/-!
# Content read as the other kind

A binary form does not say its kind, and the two schemas overlap: both begin with
four texts, then a request has three optional texts where a record has three
texts and three optional ones. So a presence byte may be read as a length and a
length as a presence byte.

* `readsAs_optionals_iff`, `readsAs_texts_iff`: when optional texts read as texts,
  and texts as optional ones.
* `exists_ofBytes_other_iff`: the bytes of content read as the other kind exactly
  if the content is `Ambiguous`, a condition on its last fields.
* `not_ambiguous_of_tokenCode`, `not_ambiguous_of_absent`: content that is not.
* `wrong_kind_rejected_iff`: the same for opening.
-/

namespace OffchainSeal.Content

open Wire

/-! ## What reads as given presences -/

/-- The bytes are forms of values of these presences, one after the other. -/
def ReadsAs : List Presence → Bytes → Prop
  | [], bs => bs = []
  | p :: ps, bs =>
    ∃ (value : p.Value) (qs : List Bytes) (form rest : Bytes),
      ValueHasForm value qs form ∧ bs = form ++ rest ∧ ReadsAs ps rest

theorem exists_hasForm_iff {fs : Schema} {bs : Bytes} :
    (∃ (row : Row fs) (qs : List Bytes), row.HasForm qs bs) ↔
      ReadsAs (fs.map Field.presence) bs := by
  induction fs generalizing bs with
  | nil =>
    constructor
    · rintro ⟨row, qs, h⟩
      cases row
      exact h.2
    · rintro rfl
      exact ⟨.nil, [], rfl, rfl⟩
  | cons f fs ih =>
    constructor
    · rintro ⟨row, qs, h⟩
      cases row with
      | cons value row =>
      obtain ⟨qs₁, bs₁, qs₂, bs₂, h₁, h₂, -, rfl⟩ := h
      exact ⟨value, qs₁, bs₁, bs₂, h₁, rfl, ih.mp ⟨row, qs₂, h₂⟩⟩
    · rintro ⟨value, qs₁, bs₁, bs₂, h₁, rfl, h⟩
      obtain ⟨row, qs₂, h₂⟩ := ih.mpr h
      exact ⟨.cons value row, _, qs₁, bs₁, qs₂, bs₂, h₁, h₂, rfl, rfl⟩

/-- A byte string reads as content of a kind exactly if it reads as the kind's
presences. -/
theorem exists_ofBytes_iff {kind : Kind} {bs : Bytes} :
    (∃ c, ofBytes kind bs = .ok c) ↔ ReadsAs (kind.schema.map Field.presence) bs := by
  rw [← exists_hasForm_iff]
  constructor
  · rintro ⟨c, h⟩
    obtain ⟨rfl, qs, h⟩ := ofBytes_eq_ok_iff.mp h
    exact ⟨c.toRow, qs, h⟩
  · rintro ⟨row, qs, h⟩
    cases kind with
    | fundsRequest =>
      refine ⟨.fundsRequest (Payload.ofRow row), ofBytes_eq_ok_iff.mpr ⟨rfl, qs, ?_⟩⟩
      rw [toRow, LawfulPayload.toRow_ofRow]
      exact h
    | transferRecord =>
      refine ⟨.transferRecord (Payload.ofRow row), ofBytes_eq_ok_iff.mpr ⟨rfl, qs, ?_⟩⟩
      rw [toRow, LawfulPayload.toRow_ofRow]
      exact h

variable {ps : List Presence} {bs : Bytes}

theorem readsAs_required_textForm {s : String} (h : (textBody s).length < wordLimit) :
    ReadsAs (.required :: ps) (textForm s ++ bs) ↔ ReadsAs ps bs := by
  constructor
  · rintro ⟨t, qs, form, rest, ht, e, hr⟩
    obtain ⟨-, -, -, rfl⟩ := (textHasForm_textForm h).append_inj ht e
    exact hr
  · intro hr
    exact ⟨s, _, textForm s, bs, textHasForm_textForm h, rfl, hr⟩

/-- A text whose length is written in the one group `b`. -/
theorem readsAs_required_cons {b : UInt8} (hb : b.toNat < 128) :
    ReadsAs (.required :: ps) (b :: bs) ↔
      ∃ u rest, (textBody u).length = b.toNat ∧ bs = textBody u ++ rest ∧ ReadsAs ps rest := by
  constructor
  · rintro ⟨u, qs, form, rest, ⟨p, hp, -, rfl⟩, e, hr⟩
    have e' : [b] ++ bs = p ++ (textBody u ++ rest) := by
      rw [← List.append_assoc]
      exact e
    obtain ⟨hlen, -, rfl⟩ := (Groups.last hb).append_inj hp.groups e'
    exact ⟨u, rest, hlen.symm, rfl, hr⟩
  · rintro ⟨u, rest, hlen, rfl, hr⟩
    have hp : IsVaruint (textBody u).length [b] :=
      ⟨hlen ▸ Groups.last hb, by simp, by rw [hlen]; unfold wordLimit; omega⟩
    exact ⟨u, [[b]], b :: textBody u, rest, ⟨[b], hp, rfl, rfl⟩, rfl, hr⟩

theorem readsAs_required_zero : ReadsAs (.required :: ps) (0 :: bs) ↔ ReadsAs ps bs := by
  rw [readsAs_required_cons (by decide)]
  constructor
  · rintro ⟨u, rest, hlen, rfl, hr⟩
    rw [List.eq_nil_of_length_eq_zero hlen]
    exact hr
  · intro hr
    exact ⟨"", bs, rfl, rfl, hr⟩

theorem not_readsAs_cons_nil {p : Presence} : ¬ ReadsAs (p :: ps) [] := by
  rintro ⟨value, qs, form, rest, h, e, -⟩
  obtain ⟨rfl, -⟩ := List.append_eq_nil_iff.mp e.symm
  cases p with
  | required =>
    obtain ⟨p, hp, -, e⟩ := h
    exact hp.groups.ne_nil (List.append_eq_nil_iff.mp e.symm).1
  | optional =>
    cases value with
    | none => cases h.2
    | some s => obtain ⟨tl, -, e⟩ := h; cases e

theorem readsAs_optional_zero : ReadsAs (.optional :: ps) (0 :: bs) ↔ ReadsAs ps bs := by
  constructor
  · rintro ⟨value, qs, form, rest, h, e, hr⟩
    cases value with
    | none => obtain ⟨-, rfl⟩ := h; cases e; exact hr
    | some s => obtain ⟨tl, -, rfl⟩ := h; cases e
  · intro hr
    exact ⟨none, [], [0], bs, ⟨rfl, rfl⟩, rfl, hr⟩

theorem readsAs_optional_one :
    ReadsAs (.optional :: ps) (1 :: bs) ↔ ReadsAs (.required :: ps) bs := by
  constructor
  · rintro ⟨value, qs, form, rest, h, e, hr⟩
    cases value with
    | none => obtain ⟨-, rfl⟩ := h; cases e
    | some s => obtain ⟨tl, h, rfl⟩ := h; cases e; exact ⟨s, qs, tl, rest, h, rfl, hr⟩
  · rintro ⟨s, qs, form, rest, h, rfl, hr⟩
    exact ⟨some s, qs, 1 :: form, rest, ⟨form, h, rfl⟩, rfl, hr⟩

/-- An optional text begins with a presence byte. -/
theorem ReadsAs.flag {b : UInt8} (h : ReadsAs (.optional :: ps) (b :: bs)) : b = 0 ∨ b = 1 := by
  obtain ⟨value, qs, form, rest, h, e, -⟩ := h
  cases value with
  | none => obtain ⟨-, rfl⟩ := h; cases e; exact .inl rfl
  | some s => obtain ⟨tl, -, rfl⟩ := h; cases e; exact .inr rfl

/-! ## Texts of one byte -/

/-- The texts of one byte are the characters of seven bits. -/
theorem exists_textBody_eq_singleton {b : UInt8} :
    (∃ s, textBody s = [b]) ↔ b.toNat < 128 := by
  constructor
  · rintro ⟨s, h⟩
    unfold textBody at h
    cases hs : s.toList with
    | nil => rw [hs] at h; cases h
    | cons c cs =>
      rw [hs, Utf8.encode_cons] at h
      unfold Utf8.encodeChar at h
      simp only at h
      split_ifs at h with h₁
      · rw [← (List.cons.inj h).1, Utf8.toNat_ofNat_of_lt (by omega)]
        exact h₁
      all_goals simp at h
  · intro h
    refine ⟨String.ofList [Char.ofNat b.toNat], ?_⟩
    rw [textBody, String.toList_ofList, Utf8.encode_cons, Utf8.encodeChar_one h,
      UInt8.ofNat_toNat]
    rfl

/-- The first byte of a text is its length, if that is less than 128. -/
theorem textForm_of_lt {s : String} (h : (textBody s).length < 128) :
    textForm s = UInt8.ofNat (textBody s).length :: textBody s := by
  rw [textForm, varuint, if_pos h]
  rfl

/-- The first byte of a text of at least 128 bytes has its high bit set. -/
theorem textForm_of_ge {s : String} (h : 128 ≤ (textBody s).length) :
    ∃ b tl, 128 ≤ b.toNat ∧ textForm s = b :: tl := by
  refine ⟨UInt8.ofNat (128 + (textBody s).length % 128),
    varuint ((textBody s).length / 128) ++ textBody s, ?_, ?_⟩
  · rw [Utf8.toNat_ofNat_of_lt (by omega)]
    omega
  · rw [textForm, varuint, if_neg (by omega)]
    rfl

/-! ## Optional texts read as texts, and texts as optional ones -/

/-- A present optional text reads as a text of one byte, its length, and what its own
bytes and those after it read as. -/
theorem readsAs_required_some {u : String} :
    ReadsAs (.required :: ps) (optionalForm (some u) ++ bs) ↔
      (textBody u).length < 128 ∧ ReadsAs ps (textBody u ++ bs) := by
  rw [optionalForm, List.cons_append, readsAs_required_cons (by decide)]
  constructor
  · rintro ⟨t, rest, hlen, e, hr⟩
    obtain ⟨b, hb⟩ := List.length_eq_one_iff.mp hlen
    rw [hb] at e
    have hb' := exists_textBody_eq_singleton.mp ⟨t, hb⟩
    by_cases hu : (textBody u).length < 128
    · rw [textForm_of_lt hu] at e
      obtain ⟨-, rfl⟩ := List.cons.inj e
      exact ⟨hu, hr⟩
    · obtain ⟨b', tl, hge, e'⟩ := textForm_of_ge (Nat.le_of_not_lt hu)
      rw [e'] at e
      obtain ⟨rfl, -⟩ := List.cons.inj e
      omega
  · rintro ⟨hu, hr⟩
    have hn := Utf8.toNat_ofNat_of_lt (n := (textBody u).length) (by omega)
    obtain ⟨t, ht⟩ := exists_textBody_eq_singleton.mpr (hn.trans_lt hu)
    refine ⟨t, textBody u ++ bs, by rw [ht]; rfl, ?_, hr⟩
    rw [ht, textForm_of_lt hu]
    rfl

/-- A text reads as an optional one if it is empty, which means absence, or one byte
long; then that byte is read as the length of a text. -/
theorem readsAs_optional_textForm {t : String} :
    ReadsAs (.optional :: ps) (textForm t ++ bs) ↔
      t = "" ∧ ReadsAs ps bs ∨
        ∃ b, textBody t = [b] ∧ ReadsAs (.required :: ps) (b :: bs) := by
  by_cases ht : (textBody t).length < 128
  · rw [textForm_of_lt ht]
    constructor
    · intro h
      rcases h.flag with e | e
      · have hlen : (textBody t).length = 0 := by
          rw [← Utf8.toNat_ofNat_of_lt (n := (textBody t).length) (by omega), e]; rfl
        have hnil := List.eq_nil_of_length_eq_zero hlen
        rw [hnil] at h
        exact .inl ⟨textBody_eq_nil_iff.mp hnil, readsAs_optional_zero.mp h⟩
      · have hlen : (textBody t).length = 1 := by
          rw [← Utf8.toNat_ofNat_of_lt (n := (textBody t).length) (by omega), e]; rfl
        obtain ⟨b, hb⟩ := List.length_eq_one_iff.mp hlen
        rw [hb] at h
        exact .inr ⟨b, hb, readsAs_optional_one.mp h⟩
    · rintro (⟨rfl, h⟩ | ⟨b, hb, h⟩)
      · exact readsAs_optional_zero.mpr h
      · rw [hb]
        exact readsAs_optional_one.mpr h
  · obtain ⟨b', tl, hge, e⟩ := textForm_of_ge (Nat.le_of_not_lt ht)
    rw [e]
    constructor
    · intro h
      rcases h.flag with rfl | rfl <;> exact absurd hge (by decide)
    · rintro (⟨rfl, -⟩ | ⟨b, hb, -⟩)
      · exact absurd (by decide) ht
      · rw [hb, List.length_singleton] at ht
        exact absurd (by decide) ht

/-- Values are read one by one. Where a value in its place reads as `p` either because
it is the blank one or because of `P`, the first that is not blank decides. -/
theorem readsAs_replicate_iff {α : Type} {p : Presence} {form : α → Bytes} {blank : α}
    {P : α → List Presence → Bytes → Prop} {qs : List Presence} {end_ : Bytes}
    (step : ∀ x ps bs, ReadsAs (p :: ps) (form x ++ bs) ↔ x = blank ∧ ReadsAs ps bs ∨ P x ps bs)
    (hend : ¬ ReadsAs qs end_) (xs : List α) :
    ReadsAs (List.replicate xs.length p ++ qs) (xs.flatMap form ++ end_) ↔
      ∃ k x later, xs = List.replicate k blank ++ x :: later ∧
        P x (List.replicate later.length p ++ qs) (later.flatMap form ++ end_) := by
  induction xs with
  | nil =>
    refine ⟨fun h => absurd h hend, ?_⟩
    rintro ⟨k, x, later, e, -⟩
    simp at e
  | cons y ys ih =>
    rw [List.length_cons, List.replicate_succ, List.cons_append, List.flatMap_cons,
      List.append_assoc, step, ih]
    constructor
    · rintro (⟨rfl, k, x, later, rfl, h⟩ | h)
      · exact ⟨k + 1, x, later, rfl, h⟩
      · exact ⟨0, y, ys, rfl, h⟩
    · rintro ⟨k, x, later, e, h⟩
      cases k with
      | zero => cases e; exact .inr h
      | succ k =>
        obtain ⟨rfl, rfl⟩ := List.cons.inj e
        exact .inl ⟨rfl, k, x, later, rfl, h⟩

/-! ## Ambiguous content -/

/-- The kind that is not the given one. -/
def Kind.other : Kind → Kind
  | .fundsRequest => .transferRecord
  | .transferRecord => .fundsRequest

/-- The content reads as the other kind too.

For a request: its first present optional text `u` has less than 128 bytes, and the
bytes of `u` and of the optional texts after it happen to read as the missing texts
and three optional ones.

For a record: of token code, status and identifier the first nonempty one is a
single byte `b`; the `b` bytes after it are a text `u`, and the bytes after `u`
happen to read as the missing optional texts. -/
def Ambiguous : Content → Prop
  | fundsRequest r =>
    ∃ absent u later,
      [r.memo, r.hash, r.offlineUrl] = List.replicate absent none ++ some u :: later ∧
      (textBody u).length < 128 ∧
      ReadsAs (List.replicate later.length .required ++ List.replicate 3 .optional)
        (textBody u ++ later.flatMap optionalForm)
  | transferRecord r =>
    ∃ empty t later b u rest,
      [r.tokenCode, r.status, r.obtId] = List.replicate empty "" ++ t :: later ∧
      textBody t = [b] ∧ (textBody u).length = b.toNat ∧
      later.flatMap textForm ++ [r.memo, r.hash, r.offlineUrl].flatMap optionalForm =
        textBody u ++ rest ∧
      ReadsAs (List.replicate later.length .optional) rest

theorem readsAs_optionals_iff (os : List (Option String)) :
    ReadsAs (List.replicate os.length .required ++ List.replicate 3 .optional)
        (os.flatMap optionalForm) ↔
      ∃ absent u later, os = List.replicate absent none ++ some u :: later ∧
        (textBody u).length < 128 ∧
        ReadsAs (List.replicate later.length .required ++ List.replicate 3 .optional)
          (textBody u ++ later.flatMap optionalForm) := by
  have step := fun (o : Option String) (ps : List Presence) (bs : Bytes) =>
    (show ReadsAs (.required :: ps) (optionalForm o ++ bs) ↔ o = none ∧ ReadsAs ps bs ∨
        ∃ u, o = some u ∧ (textBody u).length < 128 ∧ ReadsAs ps (textBody u ++ bs) by
      cases o with
      | none => simp [optionalForm, readsAs_required_zero]
      | some u => simp [readsAs_required_some])
  have hend : ¬ ReadsAs (List.replicate 3 .optional) [] := not_readsAs_cons_nil
  have h := readsAs_replicate_iff step hend os
  simp only [List.append_nil] at h
  rw [h]
  constructor
  · rintro ⟨k, _, later, e, u, rfl, hu⟩
    exact ⟨k, u, later, e, hu⟩
  · rintro ⟨k, u, later, e, hu⟩
    exact ⟨k, some u, later, e, u, rfl, hu⟩

theorem readsAs_texts_iff (ts : List String) (os : List (Option String)) (hos : os ≠ []) :
    ReadsAs (List.replicate ts.length .optional) (ts.flatMap textForm ++ os.flatMap optionalForm) ↔
      ∃ empty t later b u rest, ts = List.replicate empty "" ++ t :: later ∧
        textBody t = [b] ∧ (textBody u).length = b.toNat ∧
        later.flatMap textForm ++ os.flatMap optionalForm = textBody u ++ rest ∧
        ReadsAs (List.replicate later.length .optional) rest := by
  have hend : ¬ ReadsAs [] (os.flatMap optionalForm) := by
    obtain ⟨o, os, rfl⟩ := List.exists_cons_of_ne_nil hos
    cases o <;> simp [ReadsAs, optionalForm]
  have h := readsAs_replicate_iff (fun t ps bs => readsAs_optional_textForm) hend ts
  simp only [List.append_nil] at h
  rw [h]
  constructor
  · rintro ⟨k, t, later, e, b, hb, h⟩
    have hb' := exists_textBody_eq_singleton.mp ⟨t, hb⟩
    obtain ⟨u, rest, hu, hrest, h⟩ := (readsAs_required_cons hb').mp h
    exact ⟨k, t, later, b, u, rest, e, hb, hu, hrest, h⟩
  · rintro ⟨k, t, later, b, u, rest, e, hb, hu, hrest, h⟩
    have hb' := exists_textBody_eq_singleton.mp ⟨t, hb⟩
    exact ⟨k, t, later, e, b, hb, (readsAs_required_cons hb').mpr ⟨u, rest, hu, hrest, h⟩⟩

/-- Four texts at the beginning of a row read as texts only. -/
theorem readsAs_four_textForms {n₁ n₂ n₃ n₄ s₁ s₂ s₃ s₄ : String} {fs : Schema} {row : Row fs}
    (h : Row.Fits (.cons (f := ⟨n₁, .required⟩) s₁ <| .cons (f := ⟨n₂, .required⟩) s₂ <|
      .cons (f := ⟨n₃, .required⟩) s₃ <| .cons (f := ⟨n₄, .required⟩) s₄ row)) :
    ReadsAs (.required :: .required :: .required :: .required :: ps)
        (textForm s₁ ++ (textForm s₂ ++ (textForm s₃ ++ (textForm s₄ ++ row.form)))) ↔
      ReadsAs ps row.form := by
  obtain ⟨h₁, h⟩ := Row.fits_cons_iff.mp h
  obtain ⟨h₂, h⟩ := Row.fits_cons_iff.mp h
  obtain ⟨h₃, h⟩ := Row.fits_cons_iff.mp h
  obtain ⟨h₄, -⟩ := Row.fits_cons_iff.mp h
  rw [readsAs_required_textForm (h₁ _ rfl), readsAs_required_textForm (h₂ _ rfl),
    readsAs_required_textForm (h₃ _ rfl), readsAs_required_textForm (h₄ _ rfl)]

/-- The bytes of content read as content of the other kind exactly if it is ambiguous. -/
theorem exists_ofBytes_other_iff {c : Content} {bs : Bytes} (h : c.toBytes = .ok bs) :
    (∃ c', ofBytes c.kind.other bs = .ok c') ↔ c.Ambiguous := by
  obtain ⟨hfits, rfl⟩ := toBytes_eq_ok_iff.mp h
  rw [exists_ofBytes_iff]
  cases c with
  | fundsRequest r =>
    refine (readsAs_four_textForms hfits).trans ?_
    exact readsAs_optionals_iff [r.memo, r.hash, r.offlineUrl]
  | transferRecord r =>
    refine (readsAs_four_textForms hfits).trans ?_
    have h := readsAs_texts_iff [r.tokenCode, r.status, r.obtId]
      [r.memo, r.hash, r.offlineUrl] (by simp)
    simp only [List.flatMap_cons, List.flatMap_nil, List.append_assoc] at h
    unfold Ambiguous
    simp only [List.flatMap_cons, List.flatMap_nil]
    exact h

/-- A record whose token code has more than one byte does not read as a request. -/
theorem not_ambiguous_of_tokenCode {r : TransferRecord}
    (h : 2 ≤ (textBody r.tokenCode).length) : ¬ (transferRecord r).Ambiguous := by
  rintro ⟨empty, t, later, b, -, -, e, hb, -⟩
  cases empty with
  | zero =>
    obtain ⟨ht, -⟩ := List.cons.inj e
    rw [ht, hb, List.length_singleton] at h
    exact absurd h (by decide)
  | succ k =>
    obtain ⟨ht, -⟩ := List.cons.inj e
    rw [ht] at h
    exact absurd h (by decide)

/-- A request without optional texts does not read as a record. -/
theorem not_ambiguous_of_absent {r : FundsRequest} (hm : r.memo = none) (hh : r.hash = none)
    (hu : r.offlineUrl = none) : ¬ (fundsRequest r).Ambiguous := by
  rintro ⟨absent, u, later, e, -⟩
  have : some u ∈ [r.memo, r.hash, r.offlineUrl] := by rw [e]; simp
  rw [hm, hh, hu] at this
  simp at this

/-! ## Rejection -/

theorem ofBytes_rejected_iff {kind : Kind} {bs : Bytes} :
    (∃ detail, (ofBytes kind bs).mapError Failure.ofWire = .error (.serialization detail)) ↔
      ¬ ∃ c, ofBytes kind bs = .ok c := by
  cases ofBytes kind bs with
  | error e => simp [Except.mapError, Failure.ofWire]
  | ok c => simp [Except.mapError]

/-- Read as the other kind, the bytes of content fail with `serialization` unless the
content is ambiguous; so does opening an envelope that holds them. What opening
gives is always of the kind that was asked for. -/
theorem wrong_kind_rejected_iff {c : Content} {bs : Bytes} (h : c.toBytes = .ok bs) :
    ((∃ detail, (ofBytes c.kind.other bs).mapError Failure.ofWire =
        .error (.serialization detail)) ↔ ¬ c.Ambiguous) ∧
      ∀ envelope recipient sender, openHex envelope recipient sender = .ok bs →
        ((∃ detail, openContent envelope recipient sender c.kind.other =
            .error (.serialization detail)) ↔ ¬ c.Ambiguous) ∧
          ∀ c', openContent envelope recipient sender c.kind.other = .ok c' →
            c'.kind = c.kind.other := by
  have key := ofBytes_rejected_iff.trans (not_congr (exists_ofBytes_other_iff h))
  refine ⟨key, fun envelope recipient sender ho => ?_⟩
  have hopen : openContent envelope recipient sender c.kind.other =
      (ofBytes c.kind.other bs).mapError Failure.ofWire := by
    unfold openContent
    rw [ho]
    rfl
  rw [hopen]
  refine ⟨key, fun c' hc' => ?_⟩
  exact (ofBytes_eq_ok_iff.mp (Except.mapError_eq_ok_iff.mp hc')).1

/-- A record of a transfer of the token `W`. Its 87 bytes of status and identifier,
each after its length, and one presence byte are as many as the code of `W`. -/
def recordOfW : TransferRecord where
  payerPublicAddress := "purse.alice"
  payeePublicAddress := "purse.bob"
  amount := "1"
  chainCode := "ETH"
  tokenCode := "W"
  status := "sent_to_blockchain"
  obtId := "0xcf84a2a8cb1a7b5f1ff2e0e0a4a6f7f5d5fbb1a3d1c9d7b3e7c5a9e1f3b5d7c9"
  memo := none
  hash := none
  offlineUrl := none

/-- The bytes of that record read as a request too, and those of a request whose memo
is three null characters as a record; neither fails with `serialization`. -/
theorem wrong_kind_accepted :
    let record := transferRecord recordOfW
    let request := fundsRequest ⟨"a", "1", "FIO", "FIO", some "\x00\x00\x00", none, none⟩
    let bs := [1, 0x61, 1, 0x31, 3, 0x46, 0x49, 0x4f, 3, 0x46, 0x49, 0x4f, 1, 3, 0, 0, 0, 0, 0]
    record.toBytes = .ok record.toRow.form ∧
      ofBytes .fundsRequest record.toRow.form = .ok (fundsRequest
        ⟨"purse.alice", "purse.bob", "1", "ETH",
          some ("\x12sent_to_blockchain\x42" ++ recordOfW.obtId ++ "\x00"), none, none⟩) ∧
      request.toBytes = .ok bs ∧
      ofBytes .transferRecord bs = .ok (transferRecord
        ⟨"a", "1", "FIO", "FIO", "\x03", "", "", none, none, none⟩) ∧
      ¬ (∃ detail, (ofBytes .fundsRequest record.toRow.form).mapError Failure.ofWire =
        .error (.serialization detail)) ∧
      ¬ ∃ detail, (ofBytes .transferRecord bs).mapError Failure.ofWire =
        .error (.serialization detail) := by
  intro record request bs
  obtain ⟨hrecord, h₁, hrequest, h₂⟩ :
      record.toBytes = .ok record.toRow.form ∧
        ofBytes .fundsRequest record.toRow.form = .ok (fundsRequest
          ⟨"purse.alice", "purse.bob", "1", "ETH",
            some ("\x12sent_to_blockchain\x42" ++ recordOfW.obtId ++ "\x00"), none, none⟩) ∧
        request.toBytes = .ok bs ∧
        ofBytes .transferRecord bs = .ok (transferRecord
          ⟨"a", "1", "FIO", "FIO", "\x03", "", "", none, none, none⟩) := by
    decide +kernel
  refine ⟨hrecord, h₁, hrequest, h₂, ?_, ?_⟩
  · rw [ofBytes_rejected_iff, not_not]
    exact ⟨_, h₁⟩
  · rw [ofBytes_rejected_iff, not_not]
    exact ⟨_, h₂⟩

/-- The record of `W` is ambiguous, and so is not rejected as a request. The same record of a
code of two letters is rejected as one, and a request without optional texts as a record. -/
theorem wrong_kind_rejected_iff_at_W :
    let c := transferRecord recordOfW
    let bs := c.toRow.form
    let record := transferRecord { recordOfW with tokenCode := "WW" }
    let request := fundsRequest ⟨"a", "1", "FIO", "FIO", none, none, none⟩
    c.toBytes = .ok bs ∧
      ((∃ detail, (ofBytes .fundsRequest bs).mapError Failure.ofWire =
        .error (.serialization detail)) ↔ ¬ c.Ambiguous) ∧
      (∀ envelope recipient sender, openHex envelope recipient sender = .ok bs →
        ((∃ detail, openContent envelope recipient sender .fundsRequest =
            .error (.serialization detail)) ↔ ¬ c.Ambiguous) ∧
          ∀ c', openContent envelope recipient sender .fundsRequest = .ok c' →
            c'.kind = .fundsRequest) ∧
      c.Ambiguous ∧
      (record.toBytes = .ok record.toRow.form ∧ ∃ detail,
        (ofBytes .fundsRequest record.toRow.form).mapError Failure.ofWire =
          .error (.serialization detail)) ∧
      request.toBytes = .ok request.toRow.form ∧ ∃ detail,
        (ofBytes .transferRecord request.toRow.form).mapError Failure.ofWire =
          .error (.serialization detail) := by
  intro c bs record request
  obtain ⟨h, hread, hrecord, hrequest⟩ : c.toBytes = .ok bs ∧
      ofBytes .fundsRequest bs = .ok (fundsRequest
        ⟨"purse.alice", "purse.bob", "1", "ETH",
          some ("\x12sent_to_blockchain\x42" ++ recordOfW.obtId ++ "\x00"), none, none⟩) ∧
      record.toBytes = .ok record.toRow.form ∧ request.toBytes = .ok request.toRow.form := by
    decide +kernel
  obtain ⟨hbytes, hopened⟩ := wrong_kind_rejected_iff h
  have hambiguous : c.Ambiguous := (exists_ofBytes_other_iff h).mp ⟨_, hread⟩
  have hclear : ¬ record.Ambiguous := not_ambiguous_of_tokenCode (by decide)
  have hplain : ¬ request.Ambiguous := not_ambiguous_of_absent rfl rfl rfl
  refine ⟨h, hbytes, hopened, hambiguous, ⟨hrecord, ?_⟩, hrequest, ?_⟩
  · exact (wrong_kind_rejected_iff hrecord).1.mpr hclear
  · exact (wrong_kind_rejected_iff hrequest).1.mpr hplain

end OffchainSeal.Content
