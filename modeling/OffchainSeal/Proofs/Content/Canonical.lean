import OffchainSeal.Proofs.Content.Form

/-!
# How far the binary form is canonical

Writing what was read gives the same bytes exactly if every length in them is
written in as few groups as it needs. The reader does not insist on that, so
content has several forms, which differ in the spelling of the lengths alone.
-/

namespace OffchainSeal.Content

open Wire

/-- With the lengths spelt as `ps` a text has one form at most. -/
theorem TextHasForm.bytes_unique {s : String} {ps : List Bytes} {bs bs' : Bytes}
    (h : TextHasForm s ps bs) (h' : TextHasForm s ps bs') : bs = bs' := by
  obtain ⟨p, -, rfl, rfl⟩ := h
  obtain ⟨p', -, e, rfl⟩ := h'
  cases e; rfl

theorem TextHasForm.length_eq {s : String} {ps : List Bytes} {bs : Bytes}
    (h : TextHasForm s ps bs) : ps.length = 1 := by
  obtain ⟨p, -, rfl, -⟩ := h; rfl

theorem ValueHasForm.bytes_unique {p : Presence} {value : p.Value} {ps : List Bytes}
    {bs bs' : Bytes} (h : ValueHasForm value ps bs) (h' : ValueHasForm value ps bs') :
    bs = bs' := by
  cases p with
  | required => exact TextHasForm.bytes_unique h h'
  | optional =>
    cases value with
    | none => rw [h.2, h'.2]
    | some s =>
      obtain ⟨tl, h, rfl⟩ := h
      obtain ⟨tl', h', rfl⟩ := h'
      rw [h.bytes_unique h']

/-- All forms of a value have the same number of lengths. -/
theorem ValueHasForm.length_eq {p : Presence} {value : p.Value} {ps ps' : List Bytes}
    {bs bs' : Bytes} (h : ValueHasForm value ps bs) (h' : ValueHasForm value ps' bs') :
    ps.length = ps'.length := by
  cases p with
  | required => exact (TextHasForm.length_eq h).trans (TextHasForm.length_eq h').symm
  | optional =>
    cases value with
    | none => rw [h.1, h'.1]
    | some s =>
      obtain ⟨tl, h, -⟩ := h
      obtain ⟨tl', h', -⟩ := h'
      exact h.length_eq.trans h'.length_eq.symm

/-- With the lengths spelt as `ps` a row has one form at most. -/
theorem Row.HasForm.bytes_unique {fs : Schema} {row : Row fs} {ps : List Bytes} {bs bs' : Bytes}
    (h : row.HasForm ps bs) (h' : row.HasForm ps bs') : bs = bs' := by
  induction row generalizing ps bs bs' with
  | nil => rw [h.2, h'.2]
  | cons value row ih =>
    obtain ⟨ps₁, bs₁, ps₂, bs₂, h₁, h₂, rfl, rfl⟩ := h
    obtain ⟨qs₁, cs₁, qs₂, cs₂, h₁', h₂', e, rfl⟩ := h'
    obtain ⟨rfl, rfl⟩ := List.append_inj e (ValueHasForm.length_eq h₁ h₁')
    rw [ValueHasForm.bytes_unique h₁ h₁', ih h₂ h₂']

/-- The bytes that content was read from spell its lengths in some way `ps`. Writing
the content succeeds, and gives these bytes back exactly if all of `ps` are
shortest; and other bytes that read as the same content spell a length
differently. -/
theorem toBytes_of_ofBytes {kind : Kind} {bs : Bytes} {c : Content}
    (h : ofBytes kind bs = .ok c) :
    ∃ ps cs, (∀ qs, c.toRow.HasForm qs bs ↔ qs = ps) ∧ c.toBytes = .ok cs ∧
      (cs = bs ↔ ∀ p ∈ ps, IsShortest p) ∧
      ∀ qs bs', ofBytes kind bs' = .ok c → c.toRow.HasForm qs bs' → (bs' = bs ↔ qs = ps) := by
  obtain ⟨hk, ps, hps⟩ := ofBytes_eq_ok_iff.mp h
  refine ⟨ps, c.toRow.form, ?_, toBytes_eq_ok_iff.mpr ⟨hps.fits, rfl⟩, ?_, ?_⟩
  · intro qs
    constructor
    · intro hqs; exact hqs.lengths_unique hps
    · rintro rfl; exact hps
  · rw [hps.shortest_iff, eq_comm]
  · intro qs bs' _ hqs
    constructor
    · rintro rfl; exact hqs.lengths_unique hps
    · rintro rfl; exact hqs.bytes_unique hps

/-- The length zero is also read from two groups that are both zero: eight bytes and
seven read as the same request, and only the seven are written for it. -/
theorem long_length_accepted :
    let c := fundsRequest ⟨"", "", "", "", none, none, none⟩
    ofBytes .fundsRequest [0x80, 0, 0, 0, 0, 0, 0, 0] = .ok c ∧
      ofBytes .fundsRequest [0, 0, 0, 0, 0, 0, 0] = .ok c ∧
      c.toBytes = .ok [0, 0, 0, 0, 0, 0, 0] ∧
      c.toBytes ≠ .ok [0x80, 0, 0, 0, 0, 0, 0, 0] := by
  decide +kernel

/-- The lengths of a request whose token code has its length in two groups. -/
theorem toBytes_of_ofBytes_at_long_length :
    let c := fundsRequest ⟨"a", "1", "é", "", some "", none, none⟩
    let bs := [1, 0x61, 1, 0x31, 2, 0xc3, 0xa9, 0x80, 0, 1, 0, 0, 0]
    ofBytes .fundsRequest bs = .ok c ∧
      ∃ ps cs, (∀ qs, c.toRow.HasForm qs bs ↔ qs = ps) ∧ c.toBytes = .ok cs ∧
        (cs = bs ↔ ∀ p ∈ ps, IsShortest p) ∧
        ∀ qs bs', ofBytes .fundsRequest bs' = .ok c → c.toRow.HasForm qs bs' →
          (bs' = bs ↔ qs = ps) :=
  have h : ofBytes .fundsRequest [1, 0x61, 1, 0x31, 2, 0xc3, 0xa9, 0x80, 0, 1, 0, 0, 0] =
      .ok (.fundsRequest ⟨"a", "1", "é", "", some "", none, none⟩) := by decide +kernel
  ⟨h, toBytes_of_ofBytes h⟩

end OffchainSeal.Content
