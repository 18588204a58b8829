import OffchainSeal.Proofs.Content.Ambiguity
import OffchainSeal.Proofs.Content.Tree

/-!
# The grammar of the binary form

The binary form as a grammar that mentions no reader and no writer: a byte string spells
a row if it is one piece for each field, in the order of the schema, with nothing behind
the last.

* `EntrySpelling`: the productions, one for each way to spell a field.
* `Row.isSpelt_iff`: the spellings of a row are its forms.
* `ofBytes_accepts_exactly`: reading accepts the spellings of the rows of a kind, each
  for one content only, and fails on everything else with `serialization`.
-/

namespace OffchainSeal.Content

open Wire

/-! ## Productions -/

/-- The bytes are the number of UTF-8 bytes of the text, in groups, and these bytes. -/
def TextSpelling (s : String) (bs : Bytes) : Prop :=
  ∃ length, IsVaruint s.utf8ByteSize length ∧ bs = length ++ s.toUTF8.data.toList

/-- The piece of one field with its text. A required field without a text has none. -/
inductive EntrySpelling : Field × Option String → Bytes → Prop
  | required {name s : String} {bs : Bytes} :
      TextSpelling s bs → EntrySpelling (⟨name, .required⟩, some s) bs
  | absent {name : String} : EntrySpelling (⟨name, .optional⟩, none) [0]
  | present {name s : String} {bs : Bytes} :
      TextSpelling s bs → EntrySpelling (⟨name, .optional⟩, some s) (1 :: bs)

/-- The bytes are the pieces of all fields in the order of the schema. -/
def Row.IsSpelt {fs : Schema} (row : Row fs) (bs : Bytes) : Prop :=
  ∃ pieces, List.Forall₂ EntrySpelling row.entries pieces ∧ bs = pieces.flatten

/-! ## Spellings are forms -/

theorem textSpelling_iff {s : String} {bs : Bytes} :
    TextSpelling s bs ↔ ∃ ps, TextHasForm s ps bs := by
  have hbody : textBody s = s.toUTF8.data.toList := Utf8.encode_toList s
  have hsize : (textBody s).length = s.utf8ByteSize := by rw [hbody]; rfl
  unfold TextSpelling TextHasForm
  rw [hsize, hbody]
  simp

theorem entrySpelling_iff {f : Field} {value : f.presence.Value} {bs : Bytes} :
    EntrySpelling (f, Presence.Value.toOption value) bs ↔ ∃ ps, ValueHasForm value ps bs := by
  obtain ⟨name, presence⟩ := f
  cases presence with
  | required =>
    refine Iff.trans ⟨fun h => ?_, .required⟩ textSpelling_iff
    cases h with
    | required h => exact h
  | optional =>
    cases value with
    | none =>
      constructor
      · intro h
        cases h with
        | absent => exact ⟨[], rfl, rfl⟩
      · rintro ⟨ps, -, rfl⟩
        exact .absent
    | some s =>
      constructor
      · intro h
        cases h with
        | present h =>
          obtain ⟨ps, h⟩ := textSpelling_iff.mp h
          exact ⟨ps, _, h, rfl⟩
      · rintro ⟨ps, tl, h, rfl⟩
        exact .present (textSpelling_iff.mpr ⟨ps, h⟩)

/-- The pieces of a row in its order make up its forms. -/
theorem Row.isSpelt_iff {fs : Schema} {row : Row fs} {bs : Bytes} :
    row.IsSpelt bs ↔ ∃ ps, row.HasForm ps bs := by
  induction row generalizing bs with
  | nil => simp [IsSpelt, HasForm, entries]
  | cons value row ih =>
    unfold IsSpelt
    rw [entries]
    constructor
    · rintro ⟨_, hpieces, rfl⟩
      cases hpieces with
      | @cons _ piece _ pieces hpiece hpieces =>
      obtain ⟨ps₁, h₁⟩ := entrySpelling_iff.mp hpiece
      obtain ⟨ps₂, h₂⟩ := ih.mp ⟨pieces, hpieces, rfl⟩
      exact ⟨ps₁ ++ ps₂, ps₁, piece, ps₂, pieces.flatten, h₁, h₂, rfl, rfl⟩
    · rintro ⟨_, ps₁, piece, ps₂, rest, h₁, h₂, -, rfl⟩
      obtain ⟨pieces, hpieces, rfl⟩ := ih.mpr ⟨ps₂, h₂⟩
      exact ⟨piece :: pieces, .cons (entrySpelling_iff.mpr ⟨ps₁, h₁⟩) hpieces, rfl⟩

/-! ## What is accepted -/

variable {kind : Kind} {bs : Bytes}

theorem ofBytes_eq_ok_iff_isSpelt {c : Content} :
    ofBytes kind bs = .ok c ↔ c.kind = kind ∧ c.toRow.IsSpelt bs := by
  rw [ofBytes_eq_ok_iff, Row.isSpelt_iff]

/-- Reading rejects exactly the bytes that spell no content of the kind. -/
theorem not_isSpelt_iff : (∀ c : Content, c.kind = kind → ¬ c.toRow.IsSpelt bs) ↔
    ∃ detail, (ofBytes kind bs).mapError Failure.ofWire = .error (.serialization detail) := by
  rw [ofBytes_rejected_iff]
  simp only [ofBytes_eq_ok_iff_isSpelt, not_exists, not_and]

/-- Reading the bytes as content of a kind gives `c` exactly if `c` is of that kind and the
bytes are the pieces of its fields in their order, with nothing behind them. No other
content of the kind is spelt so. On bytes that spell nothing reading fails with
`serialization`, and never with another failure. The two types of payloads are read
in the same way. -/
theorem ofBytes_accepts_exactly (kind : Kind) (bs : Bytes) :
    (∀ c, (ofBytes kind bs).mapError Failure.ofWire = .ok c ↔
        c.kind = kind ∧ c.toRow.IsSpelt bs) ∧
      (∀ c c' : Content, c.kind = kind → c'.kind = kind → c.toRow.IsSpelt bs →
        c'.toRow.IsSpelt bs → c = c') ∧
      ((∀ c : Content, c.kind = kind → ¬ c.toRow.IsSpelt bs) ↔
        ∃ detail, (ofBytes kind bs).mapError Failure.ofWire = .error (.serialization detail)) ∧
      (∀ failure, (ofBytes kind bs).mapError Failure.ofWire = .error failure →
        ∃ detail, failure = .serialization detail) ∧
      (∀ r : FundsRequest, Payload.ofBytes bs = .ok r ↔ (Payload.toRow r).IsSpelt bs) ∧
      ∀ r : TransferRecord, Payload.ofBytes bs = .ok r ↔ (Payload.toRow r).IsSpelt bs := by
  refine ⟨fun c => ?_, fun c c' hk hk' h h' => ?_, not_isSpelt_iff, fun failure h => ?_,
    fun r => ?_, fun r => ?_⟩
  · rw [Except.mapError_eq_ok_iff, ofBytes_eq_ok_iff_isSpelt]
  · have hread := ofBytes_eq_ok_iff_isSpelt.mpr ⟨hk, h⟩
    rw [ofBytes_eq_ok_iff_isSpelt.mpr ⟨hk', h'⟩] at hread
    exact (Except.ok.inj hread).symm
  · obtain ⟨fault, -, rfl⟩ := Except.mapError_eq_error_iff.mp h
    exact ⟨_, rfl⟩
  · rw [Payload.ofBytes_eq_ok_iff, Row.isSpelt_iff]
  · rw [Payload.ofBytes_eq_ok_iff, Row.isSpelt_iff]

end OffchainSeal.Content
