import OffchainSeal.Content.Basic
import OffchainSeal.Proofs.Wire.Text

/-!
# The binary forms of a row

A row has one binary form for each way to write its lengths. `Row.HasForm` names
these forms; it is the grammar of the format, stated over the values.

* `takes_getRow`: the reader accepts exactly these forms.
* `writes_putRow`, `fails_putRow`: the writer gives the form with the shortest
  lengths, or fails at a text that is too long.
* `Content.ofBytes_eq_ok_iff`, `Content.toBytes_eq_ok_iff`: the same for content.
-/

namespace OffchainSeal.Content

open Wire

/-! ## Forms -/

/-- The bytes are the text `s` after its length, and `ps` holds that length alone. -/
def TextHasForm (s : String) (ps : List Bytes) (bs : Bytes) : Prop :=
  ∃ p, IsVaruint (textBody s).length p ∧ ps = [p] ∧ bs = p ++ textBody s

/-- The bytes are a form of the value; `ps` are the lengths in it as they are written. -/
def ValueHasForm : {p : Presence} → p.Value → List Bytes → Bytes → Prop
  | .required, s, ps, bs => TextHasForm s ps bs
  | .optional, none, ps, bs => ps = [] ∧ bs = [0]
  | .optional, some s, ps, bs => ∃ tl, TextHasForm s ps tl ∧ bs = 1 :: tl

/-- The bytes are forms of the values one after the other; `ps` are the lengths in
them as they are written. -/
def Row.HasForm : {fs : Schema} → Row fs → List Bytes → Bytes → Prop
  | _, .nil, ps, bs => ps = [] ∧ bs = []
  | _, .cons value row, ps, bs =>
    ∃ ps₁ bs₁ ps₂ bs₂, ValueHasForm value ps₁ bs₁ ∧ row.HasForm ps₂ bs₂ ∧
      ps = ps₁ ++ ps₂ ∧ bs = bs₁ ++ bs₂

/-! ## Reading -/

theorem takes_getValue {name : String} {p : Presence} {value : p.Value} {bs rest : Bytes} :
    (Row.getValue name p).Takes bs value rest ↔
      ∃ ps form, ValueHasForm value ps form ∧ bs = form ++ rest := by
  cases p with
  | required =>
    refine takes_getText.trans ⟨?_, ?_⟩
    · rintro ⟨p, hp, rfl⟩
      exact ⟨[p], _, ⟨p, hp, rfl, rfl⟩, rfl⟩
    · rintro ⟨ps, form, ⟨p, hp, -, rfl⟩, rfl⟩
      exact ⟨p, hp, rfl⟩
  | optional =>
    cases value with
    | none =>
      refine takes_getOptionalText_none.trans ⟨?_, ?_⟩
      · rintro rfl
        exact ⟨[], [0], ⟨rfl, rfl⟩, rfl⟩
      · rintro ⟨ps, form, ⟨-, rfl⟩, rfl⟩
        rfl
    | some s =>
      refine takes_getOptionalText_some.trans ⟨?_, ?_⟩
      · rintro ⟨p, hp, rfl⟩
        exact ⟨[p], _, ⟨_, ⟨p, hp, rfl, rfl⟩, rfl⟩, rfl⟩
      · rintro ⟨ps, form, ⟨tl, ⟨p, hp, -, rfl⟩, rfl⟩, rfl⟩
        exact ⟨p, hp, rfl⟩

/-- The reader of rows accepts exactly the forms of rows. -/
theorem takes_getRow {fs : Schema} {row : Row fs} {bs rest : Bytes} :
    (Row.get fs).Takes bs row rest ↔ ∃ ps form, row.HasForm ps form ∧ bs = form ++ rest := by
  induction fs generalizing bs with
  | nil =>
    cases row
    refine takes_pure.trans ⟨?_, ?_⟩
    · rintro ⟨-, rfl⟩
      exact ⟨[], [], ⟨rfl, rfl⟩, rfl⟩
    · rintro ⟨ps, form, ⟨-, rfl⟩, rfl⟩
      exact ⟨rfl, rfl⟩
  | cons f fs ih =>
    cases row with
    | cons value row =>
    unfold Row.get
    constructor
    · intro h
      obtain ⟨v, mid, hv, h⟩ := takes_bind.mp h
      obtain ⟨r, rest', hr, h⟩ := takes_bind.mp h
      obtain ⟨e, rfl⟩ := takes_pure.mp h
      cases e
      obtain ⟨ps₁, form₁, h₁, rfl⟩ := takes_getValue.mp hv
      obtain ⟨ps₂, form₂, h₂, rfl⟩ := ih.mp hr
      exact ⟨_, _, ⟨ps₁, form₁, ps₂, form₂, h₁, h₂, rfl, rfl⟩, by rw [List.append_assoc]⟩
    · rintro ⟨ps, form, ⟨ps₁, form₁, ps₂, form₂, h₁, h₂, rfl, rfl⟩, rfl⟩
      refine takes_bind.mpr ⟨value, form₂ ++ rest, takes_getValue.mpr ⟨ps₁, form₁, h₁, ?_⟩,
        takes_bind.mpr ⟨row, rest, ih.mpr ⟨ps₂, form₂, h₂, rfl⟩, takes_pure.mpr ⟨rfl, rfl⟩⟩⟩
      rw [List.append_assoc]

theorem getRow_eq_ok_iff {fs : Schema} {row : Row fs} {bs : Bytes} :
    (Row.get fs).ofBytes bs = .ok row ↔ ∃ ps, row.HasForm ps bs := by
  rw [Get.ofBytes_eq_ok_iff, takes_getRow]
  simp

/-! ## A form ends where it says -/

theorem TextHasForm.append_inj {s s' : String} {ps ps' : List Bytes} {bs bs' rest rest' : Bytes}
    (h : TextHasForm s ps bs) (h' : TextHasForm s' ps' bs') (e : bs ++ rest = bs' ++ rest') :
    s = s' ∧ ps = ps' ∧ bs = bs' ∧ rest = rest' := by
  obtain ⟨p, hp, rfl, rfl⟩ := h
  obtain ⟨p', hp', rfl, rfl⟩ := h'
  rw [List.append_assoc, List.append_assoc] at e
  obtain ⟨hlen, rfl, e'⟩ := hp.groups.append_inj hp'.groups e
  obtain ⟨hbody, rfl⟩ := List.append_inj e' hlen
  rw [textBody_injective hbody]
  simp

theorem ValueHasForm.append_inj {p : Presence} {v v' : p.Value} {ps ps' : List Bytes}
    {bs bs' rest rest' : Bytes} (h : ValueHasForm v ps bs) (h' : ValueHasForm v' ps' bs')
    (e : bs ++ rest = bs' ++ rest') : v = v' ∧ ps = ps' ∧ bs = bs' ∧ rest = rest' := by
  cases p with
  | required => exact TextHasForm.append_inj h h' e
  | optional =>
    cases v with
    | none =>
      obtain ⟨rfl, rfl⟩ := h
      cases v' with
      | none => obtain ⟨rfl, rfl⟩ := h'; simpa using e
      | some s' => obtain ⟨tl', -, rfl⟩ := h'; simp at e
    | some s =>
      obtain ⟨tl, h, rfl⟩ := h
      cases v' with
      | none => obtain ⟨-, rfl⟩ := h'; simp at e
      | some s' =>
        obtain ⟨tl', h', rfl⟩ := h'
        obtain ⟨rfl, rfl, rfl, rfl⟩ := h.append_inj h' (List.cons.inj e).2
        simp

theorem Row.HasForm.append_inj {fs : Schema} {row row' : Row fs} {ps ps' : List Bytes}
    {bs bs' rest rest' : Bytes} (h : row.HasForm ps bs) (h' : row'.HasForm ps' bs')
    (e : bs ++ rest = bs' ++ rest') : row = row' ∧ ps = ps' ∧ bs = bs' ∧ rest = rest' := by
  induction fs generalizing ps ps' bs bs' with
  | nil =>
    cases row
    cases row'
    obtain ⟨rfl, rfl⟩ := h
    obtain ⟨rfl, rfl⟩ := h'
    simpa using e
  | cons f fs ih =>
    cases row with
    | cons value row =>
    cases row' with
    | cons value' row' =>
    obtain ⟨ps₁, bs₁, ps₂, bs₂, h₁, h₂, rfl, rfl⟩ := h
    obtain ⟨ps₁', bs₁', ps₂', bs₂', h₁', h₂', rfl, rfl⟩ := h'
    rw [List.append_assoc, List.append_assoc] at e
    obtain ⟨rfl, rfl, rfl, e'⟩ := ValueHasForm.append_inj h₁ h₁' e
    obtain ⟨rfl, rfl, rfl, rfl⟩ := ih h₂ h₂' e'
    simp

/-- The lengths in a form are determined by its bytes. -/
theorem Row.HasForm.lengths_unique {fs : Schema} {row : Row fs} {ps ps' : List Bytes} {bs : Bytes}
    (h : row.HasForm ps bs) (h' : row.HasForm ps' bs) : ps = ps' := by
  have e : bs ++ ([] : Bytes) = bs ++ [] := rfl
  exact (h.append_inj h' e).2.1

/-! ## Writing -/

/-- The written form of a value. -/
def valueForm : {p : Presence} → p.Value → Bytes
  | .required, s => textForm s
  | .optional, s => optionalForm s

/-- The written form of a row. -/
def Row.form : {fs : Schema} → Row fs → Bytes
  | _, .nil => []
  | _, .cons value row => valueForm value ++ row.form

/-- The length of every present text takes at most 32 bits. -/
def Row.Fits {fs : Schema} (row : Row fs) : Prop :=
  ∀ m ∈ row.present, (textBody m.2).length < wordLimit

/-- The value is no text of too many bytes. -/
def ValueFits {p : Presence} (value : p.Value) : Prop :=
  ∀ s, Presence.Value.toOption value = some s → (textBody s).length < wordLimit

theorem Row.fits_cons_iff {f : Field} {fs : Schema} {value : f.presence.Value} {row : Row fs} :
    (Row.cons value row).Fits ↔ ValueFits value ∧ row.Fits := by
  unfold Row.Fits ValueFits
  rw [Row.present]
  cases Presence.Value.toOption value <;> simp

theorem writes_putValue {p : Presence} {value : p.Value} (h : ValueFits value) :
    (Row.putValue value).Writes (valueForm value) := by
  cases p with
  | required => exact writes_putText (h value rfl)
  | optional =>
    cases value with
    | none => exact writes_putOptionalText_none
    | some s => exact writes_putOptionalText_some (h s rfl)

theorem fails_putValue {p : Presence} {value : p.Value} (h : ¬ ValueFits value) :
    ∃ n, wordLimit ≤ n ∧ (Row.putValue value).Fails (.textTooLong n) := by
  unfold ValueFits at h
  push Not at h
  obtain ⟨s, hs, hlen⟩ := h
  refine ⟨_, hlen, ?_⟩
  cases p with
  | required => cases hs; exact fails_putText (Nat.not_lt.mpr hlen)
  | optional =>
    cases value with
    | none => cases hs
    | some t => cases hs; exact fails_putOptionalText (Nat.not_lt.mpr hlen)

theorem writes_putRow {fs : Schema} {row : Row fs} (h : row.Fits) : row.put.Writes row.form := by
  induction row with
  | nil => exact writes_pure
  | cons value row ih =>
    rw [Row.fits_cons_iff] at h
    exact writes_bind (writes_putValue h.1) (ih h.2)

theorem fails_putRow {fs : Schema} {row : Row fs} (h : ¬ row.Fits) :
    ∃ n, wordLimit ≤ n ∧ row.put.Fails (.textTooLong n) := by
  induction row with
  | nil => exact (h (by simp [Row.Fits, Row.present])).elim
  | cons value row ih =>
    rw [Row.fits_cons_iff] at h
    by_cases hv : ValueFits value
    · obtain ⟨n, hn, hf⟩ := ih (fun hr => h ⟨hv, hr⟩)
      exact ⟨n, hn, fails_bind_right (writes_putValue hv) hf⟩
    · obtain ⟨n, hn, hf⟩ := fails_putValue hv
      exact ⟨n, hn, fails_bind_left hf⟩

theorem putRow_eq_ok_iff {fs : Schema} {row : Row fs} {bs : Bytes} :
    row.put.toBytes = .ok bs ↔ row.Fits ∧ bs = row.form := by
  by_cases h : row.Fits
  · rw [(writes_putRow h).toBytes]
    simp [h, eq_comm]
  · obtain ⟨n, -, hf⟩ := fails_putRow h
    rw [hf.toBytes]
    simp [h]

/-! ## The written form among the forms -/

theorem textHasForm_textForm {s : String} (h : (textBody s).length < wordLimit) :
    TextHasForm s [varuint (textBody s).length] (textForm s) :=
  ⟨_, isVaruint_varuint h, rfl, rfl⟩

theorem TextHasForm.fits {s : String} {ps : List Bytes} {bs : Bytes} (h : TextHasForm s ps bs) :
    (textBody s).length < wordLimit := by
  obtain ⟨p, hp, -⟩ := h
  exact hp.lt

theorem TextHasForm.shortest_iff {s : String} {ps : List Bytes} {bs : Bytes}
    (h : TextHasForm s ps bs) : (∀ p ∈ ps, IsShortest p) ↔ bs = textForm s := by
  obtain ⟨p, hp, rfl, rfl⟩ := h
  rw [textForm, List.append_left_inj, ← hp.groups.isShortest_iff]
  simp

theorem ValueHasForm.fits {p : Presence} {value : p.Value} {ps : List Bytes} {bs : Bytes}
    (h : ValueHasForm value ps bs) : ValueFits value := by
  intro s hs
  cases p with
  | required => cases hs; exact TextHasForm.fits h
  | optional =>
    cases value with
    | none => cases hs
    | some t => cases hs; obtain ⟨tl, h, -⟩ := h; exact h.fits

theorem ValueHasForm.shortest_iff {p : Presence} {value : p.Value} {ps : List Bytes} {bs : Bytes}
    (h : ValueHasForm value ps bs) : (∀ q ∈ ps, IsShortest q) ↔ bs = valueForm value := by
  cases p with
  | required => exact TextHasForm.shortest_iff h
  | optional =>
    cases value with
    | none => obtain ⟨rfl, rfl⟩ := h; simp [valueForm, optionalForm]
    | some s =>
      obtain ⟨tl, h, rfl⟩ := h
      rw [h.shortest_iff, valueForm, optionalForm, List.cons.injEq]
      simp

theorem exists_valueHasForm {p : Presence} {value : p.Value} (h : ValueFits value) :
    ∃ ps, ValueHasForm value ps (valueForm value) := by
  cases p with
  | required => exact ⟨_, textHasForm_textForm (h value rfl)⟩
  | optional =>
    cases value with
    | none => exact ⟨[], rfl, rfl⟩
    | some s => exact ⟨_, _, textHasForm_textForm (h s rfl), rfl⟩

theorem Row.HasForm.fits {fs : Schema} {row : Row fs} {ps : List Bytes} {bs : Bytes}
    (h : row.HasForm ps bs) : row.Fits := by
  induction row generalizing ps bs with
  | nil => simp [Row.Fits, Row.present]
  | cons value row ih =>
    obtain ⟨_, _, _, _, h₁, h₂, -, -⟩ := h
    exact Row.fits_cons_iff.mpr ⟨ValueHasForm.fits h₁, ih h₂⟩

/-- The writer's form is one of the forms of the row. -/
theorem Row.Fits.exists_hasForm {fs : Schema} {row : Row fs} (h : row.Fits) :
    ∃ ps, row.HasForm ps row.form := by
  induction row with
  | nil => exact ⟨[], rfl, rfl⟩
  | cons value row ih =>
    rw [Row.fits_cons_iff] at h
    obtain ⟨ps₁, h₁⟩ := exists_valueHasForm h.1
    obtain ⟨ps₂, h₂⟩ := ih h.2
    exact ⟨_, _, _, _, _, h₁, h₂, rfl, rfl⟩

/-- Of the forms of a row the writer gives the one in which all lengths are shortest. -/
theorem Row.HasForm.shortest_iff {fs : Schema} {row : Row fs} {ps : List Bytes} {bs : Bytes}
    (h : row.HasForm ps bs) : (∀ p ∈ ps, IsShortest p) ↔ bs = row.form := by
  induction row generalizing ps bs with
  | nil => obtain ⟨rfl, rfl⟩ := h; simp [Row.form]
  | cons value row ih =>
    obtain ⟨ps₁, bs₁, ps₂, bs₂, h₁, h₂, rfl, rfl⟩ := h
    obtain ⟨qs₁, hq₁⟩ := exists_valueHasForm (ValueHasForm.fits h₁)
    rw [List.forall_mem_append, ValueHasForm.shortest_iff h₁, ih h₂, Row.form]
    constructor
    · rintro ⟨rfl, rfl⟩; rfl
    · intro e
      obtain ⟨-, -, e₁, e₂⟩ := ValueHasForm.append_inj h₁ hq₁ e
      exact ⟨e₁, e₂⟩

end OffchainSeal.Content

/-! ## Payloads and content -/

namespace OffchainSeal

open Content

/-- A payload is its row. -/
class LawfulPayload (α : Type) [Payload α] : Prop where
  ofRow_toRow : ∀ a : α, Payload.ofRow (Payload.toRow a) = a
  toRow_ofRow : ∀ row, Payload.toRow (Payload.ofRow row : α) = row

instance : LawfulPayload FundsRequest where
  ofRow_toRow _ := rfl
  toRow_ofRow
    | .cons _ (.cons _ (.cons _ (.cons _ (.cons _ (.cons _ (.cons _ .nil)))))) => rfl

instance : LawfulPayload TransferRecord where
  ofRow_toRow _ := rfl
  toRow_ofRow
    | .cons _ (.cons _ (.cons _ (.cons _ (.cons _ (.cons _ (.cons _ (.cons _ (.cons _
        (.cons _ .nil))))))))) => rfl

namespace Payload

variable {α : Type} [Payload α] [LawfulPayload α]

theorem ofBytes_eq_ok_iff {a : α} {bs : Bytes} :
    ofBytes bs = .ok a ↔ ∃ ps, (toRow a).HasForm ps bs := by
  unfold ofBytes
  rw [Except.map_eq_ok_iff]
  constructor
  · rintro ⟨row, h, rfl⟩
    rw [LawfulPayload.toRow_ofRow]
    exact getRow_eq_ok_iff.mp h
  · intro h
    exact ⟨toRow a, getRow_eq_ok_iff.mpr h, LawfulPayload.ofRow_toRow a⟩

omit [LawfulPayload α] in
theorem toBytes_eq_ok_iff {a : α} {bs : Bytes} :
    toBytes a = .ok bs ↔ (toRow a).Fits ∧ bs = (toRow a).form :=
  putRow_eq_ok_iff

end Payload

namespace Content

/-- A byte string reads as content of a kind exactly if it is one of its forms. -/
theorem ofBytes_eq_ok_iff {kind : Kind} {c : Content} {bs : Bytes} :
    ofBytes kind bs = .ok c ↔ c.kind = kind ∧ ∃ ps, c.toRow.HasForm ps bs := by
  cases kind <;> cases c <;> simp [ofBytes, Payload.ofBytes_eq_ok_iff, Content.kind, toRow]

/-- Content is written exactly if its texts fit, and then in the shortest form. -/
theorem toBytes_eq_ok_iff {c : Content} {bs : Bytes} :
    c.toBytes = .ok bs ↔ c.toRow.Fits ∧ bs = c.toRow.form := by
  cases c <;> exact Payload.toBytes_eq_ok_iff

end Content
end OffchainSeal
