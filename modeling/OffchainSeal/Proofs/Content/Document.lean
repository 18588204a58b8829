import OffchainSeal.Proofs.Content.Form
import OffchainSeal.Proofs.Content.RowDocument
import OffchainSeal.Sealing

/-!
# Content as a document

Which texts are read as content of a kind, and that what is written is read back.

* `ofJson_eq_ok_iff`: a text is read as content exactly if it is a document of it.
* `json_accepts_exactly`: the same for every text, with what the others give, and that
  only what a text stands for matters.
* `json_round_trip`: written content is read back.
-/

namespace OffchainSeal.Content

open Json

/-- The text is a document of the content. -/
def IsDocument (c : Content) (text : String) : Prop :=
  ∃ t, Json.Denotes text.toList t ∧ c.toRow.HasTree t

theorem nodup_names (kind : Kind) : (kind.schema.map Field.name).Nodup := by
  cases kind <;> decide

theorem kind_ofRow {kind : Kind} (row : Row kind.schema) : (ofRow kind row).kind = kind := by
  cases kind <;> rfl

theorem ofRow_toRow (c : Content) : ofRow c.kind c.toRow = c := by
  cases c with
  | fundsRequest r => exact congrArg _ (LawfulPayload.ofRow_toRow r)
  | transferRecord r => exact congrArg _ (LawfulPayload.ofRow_toRow r)

theorem isDocument_ofRow_iff {kind : Kind} {row : Row kind.schema} {text : String} :
    (ofRow kind row).IsDocument text ↔ ∃ t, Json.Denotes text.toList t ∧ row.HasTree t := by
  cases kind with
  | fundsRequest =>
    change (∃ t, _ ∧ (Payload.toRow (Payload.ofRow row : FundsRequest)).HasTree t) ↔ _
    rw [LawfulPayload.toRow_ofRow]
  | transferRecord =>
    change (∃ t, _ ∧ (Payload.toRow (Payload.ofRow row : TransferRecord)).HasTree t) ↔ _
    rw [LawfulPayload.toRow_ofRow]

/-- A text is read as content exactly if it is a document of it. -/
theorem ofJson_eq_ok_iff {kind : Kind} {text : String} {c : Content} :
    ofJson kind text = .ok c ↔ c.kind = kind ∧ c.IsDocument text := by
  unfold ofJson
  rw [Except.map_eq_ok_iff]
  constructor
  · rintro ⟨row, hrow, rfl⟩
    rw [Row.ofDocument_eq_ok_iff (nodup_names kind)] at hrow
    exact ⟨kind_ofRow row, isDocument_ofRow_iff.mpr hrow⟩
  · rintro ⟨rfl, hdocument⟩
    exact ⟨c.toRow, (Row.ofDocument_eq_ok_iff (nodup_names c.kind)).mpr hdocument, ofRow_toRow c⟩

/-- Two documents that differ in the order of members are documents of the same content. -/
theorem IsDocument.of_reordered {c : Content} {text text' : String} {t t' : Tree}
    (ht : Json.Denotes text.toList t) (ht' : Json.Denotes text'.toList t') (hr : Reordered t t')
    (h : c.IsDocument text) : c.IsDocument text' := by
  obtain ⟨u, hu, hrow⟩ := h
  obtain rfl := ht.unique hu hrow.isFlatDocument
  exact ⟨t', ht', .of_reordered hr hrow⟩

/-! ## Main results -/

/-- Every text is read as content exactly if it is a document of it, and any other text
fails as one that cannot be read. Of two texts that stand for one value, up to the order
of members, both are read as the same content or neither is read. -/
theorem json_accepts_exactly (kind : Kind) (text : String) :
    (∀ c, ofJson kind text = .ok c ↔ c.kind = kind ∧ c.IsDocument text) ∧
      ((∀ c : Content, c.kind = kind → ¬ c.IsDocument text) →
        ∃ detail, (ofJson kind text).mapError (Failure.ofDocument kind) =
          .error (.serialization detail)) ∧
      ∀ text' t t', Json.Denotes text.toList t → Json.Denotes text'.toList t' → Reordered t t' →
        ∀ c, ofJson kind text = .ok c ↔ ofJson kind text' = .ok c := by
  refine ⟨fun c => ofJson_eq_ok_iff, fun hnone => ?_, fun text' t t' ht ht' hr c => ?_⟩
  · have hfails : ∀ c, ofJson kind text ≠ .ok c := by
      intro c hc
      obtain ⟨hkind, hdocument⟩ := ofJson_eq_ok_iff.mp hc
      exact hnone c hkind hdocument
    obtain ⟨fault, hfault⟩ := Except.exists_error_iff.mpr hfails
    exact ⟨_, Except.mapError_eq_error_iff.mpr ⟨fault, hfault, rfl⟩⟩
  · rw [ofJson_eq_ok_iff, ofJson_eq_ok_iff]
    exact and_congr_right fun _ =>
      ⟨.of_reordered ht ht' hr, .of_reordered ht' ht hr.symm⟩

/-- Content of either kind, whatever characters its texts have, is written as an object of
its present fields in the order of the schema, and read back. -/
theorem json_round_trip (c : Content) :
    ofJson c.kind c.toJson = .ok c ∧ Json.Denotes c.toJson.toList (.object c.toRow.members) := by
  have hwritten : Json.Denotes c.toJson.toList (.object c.toRow.members) := by
    rw [← Row.toTree_toDocument]
    exact denotes_render c.toDocument
  have hmembers := Row.hasMembers_members (nodup_names c.kind) c.toRow
  exact ⟨ofJson_eq_ok_iff.mpr ⟨rfl, .object c.toRow.members, hwritten, hmembers⟩, hwritten⟩

end OffchainSeal.Content
