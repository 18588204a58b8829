import OffchainSeal.Proofs.Command.Session
import OffchainSeal.Proofs.Content.Document

/-!
# Documents of both kinds

An object is a document of one kind at most: a record has members that a request does not
know. An array has no names. The end of a request and the end of a record may be left out,
so an array of seven texts is a whole request and a record without its last three fields.

* `Row.HasMembers.mem_of_required`, `Row.HasElements.length_le`: what a value that stands
  for a row has to have.
* `shared_documents`: the documents of both kinds are the arrays of seven texts.
-/

namespace OffchainSeal.Content

open Json

/-! ## What the value of a row has -/

section

variable {fs : Schema} {row : Row fs}

/-- A required field has a text. -/
theorem Row.ne_none_of_required {e : Field × Option String} (he : e ∈ row.entries)
    (hrequired : e.1.presence = .required) : e.2 ≠ none := by
  obtain ⟨v, hv⟩ := Row.exists_value_of_mem_entries he
  obtain ⟨⟨name, presence⟩, o⟩ := e
  cases hrequired
  rw [← hv]
  exact Option.some_ne_none _

/-- An object has a member for each required field. -/
theorem Row.HasMembers.mem_of_required {ms : List (List Char × Tree)} (h : row.HasMembers ms)
    {f : Field} (hf : f ∈ fs) (hrequired : f.presence = .required) :
    f.name.toList ∈ ms.map Prod.fst := by
  obtain ⟨o, he⟩ := row.exists_mem_entries hf
  rcases h.2.2 _ he with hmem | ⟨-, hnone⟩
  · exact List.mem_map_of_mem hmem
  · exact absurd hnone (Row.ne_none_of_required he hrequired)

/-- An object has no member but the fields. -/
theorem Row.HasMembers.mem_names {ms : List (List Char × Tree)} (h : row.HasMembers ms)
    {key : List Char} (hkey : key ∈ ms.map Prod.fst) : ∃ f ∈ fs, key = f.name.toList := by
  obtain ⟨m, hm, rfl⟩ := List.mem_map.mp hkey
  exact h.2.1 m hm

/-- An array has no more elements than there are fields. -/
theorem Row.HasElements.length_le {ts : List Tree} (h : row.HasElements ts) :
    ts.length ≤ fs.length := by
  have hlen := h.1.length_le
  rwa [List.length_map, ← List.length_map Prod.fst, row.map_fst_entries] at hlen

end

/-! ## Seven texts -/

/-- The document is an array of seven texts. -/
def IsSevenTexts (text : String) : Prop :=
  ∃ a b c d e f g : String,
    Json.Denotes text.toList (.array ([a, b, c, d, e, f, g].map fun s => .text s.toList))

/-- An array of no more than seven elements that stands for a record is seven texts. -/
theorem TransferRecord.seven_texts {r : TransferRecord} {ts : List Tree}
    (h : (Payload.toRow r).HasElements ts) (hlen : ts.length ≤ 7) :
    ts = [r.payerPublicAddress, r.payeePublicAddress, r.amount, r.chainCode, r.tokenCode,
      r.status, r.obtId].map fun s => .text s.toList := by
  obtain ⟨hlead, hrest⟩ := h
  have hseven : ts.length = 7 := by
    by_contra hne
    -- A shorter array leaves out `obt_id`, which has to be there.
    have hmem : (⟨"obt_id", .required⟩, some r.obtId) ∈
        (Payload.toRow r).entries.drop ts.length := by
      have hdrop : ((Payload.toRow r).entries.drop 6) <:+
          (Payload.toRow r).entries.drop ts.length :=
        List.drop_suffix_drop_left _ (by omega)
      exact hdrop.subset List.mem_cons_self
    exact Option.some_ne_none _ (hrest _ hmem)
  rw [List.prefix_iff_eq_take.mp hlead, hseven]
  rfl

/-- Seven texts are a request with all its fields. -/
theorem isDocument_request {text a b c d e f g : String}
    (h : Json.Denotes text.toList (.array ([a, b, c, d, e, f, g].map fun s => .text s.toList))) :
    (fundsRequest ⟨a, b, c, d, some e, some f, some g⟩).IsDocument text :=
  ⟨_, h, List.prefix_refl _, List.forall_mem_nil _⟩

/-- Seven texts are a record without its optional fields. -/
theorem isDocument_record {text a b c d e f g : String}
    (h : Json.Denotes text.toList (.array ([a, b, c, d, e, f, g].map fun s => .text s.toList))) :
    (transferRecord ⟨a, b, c, d, e, f, g, none, none, none⟩).IsDocument text := by
  refine ⟨_, h, ⟨[.null, .null, .null], rfl⟩, ?_⟩
  intro entry hentry
  fin_cases hentry <;> rfl

/-- A document of a request and of a record is an array of seven texts. -/
theorem IsDocument.seven_texts {q : FundsRequest} {r : TransferRecord} {text : String}
    (hq : (fundsRequest q).IsDocument text) (hr : (transferRecord r).IsDocument text) :
    IsSevenTexts text := by
  obtain ⟨t, ht, hq⟩ := hq
  obtain ⟨t', ht', hr⟩ := hr
  obtain rfl := ht.unique ht' hr.isFlatDocument
  cases t with
  | array ts =>
    rw [TransferRecord.seven_texts hr (Row.HasElements.length_le hq)] at ht
    exact ⟨_, _, _, _, _, _, _, ht⟩
  | object ms =>
    have hpayer : "payer_public_address".toList ∈ ms.map Prod.fst :=
      Row.HasMembers.mem_of_required (f := ⟨"payer_public_address", .required⟩) hr
        List.mem_cons_self rfl
    obtain ⟨f, hf, hname⟩ := Row.HasMembers.mem_names hq hpayer
    have hunknown : ∀ f ∈ Kind.fundsRequest.schema, "payer_public_address".toList ≠ f.name.toList :=
      by decide
    exact absurd hname (hunknown f hf)
  | _ => exact hq.elim

/-! ## Refusal -/

section

variable {m : Type → Type} [Monad m] [LawfulMonad m]

/-- A document that is no content of the kind is refused before anything is sealed; the host is
not asked for a vector. -/
theorem sealedReport_of_unreadable {kind : Kind} {document : String}
    (h : ∀ c, ofJson kind document ≠ .ok c) (host : Host m) (own : PrivateKey)
    (recipient : String) : ∃ detail,
      sealedReport host own recipient kind document =
        throw (.ofFailure (.serialization detail)) := by
  obtain ⟨fault, hfault⟩ := Except.exists_error_iff.mpr h
  refine ⟨s!"invalid {kind} json: {fault.message}", ?_⟩
  have hread : (ofJson kind document).mapError (Failure.ofDocument kind) =
      .error (.serialization s!"invalid {kind} json: {fault.message}") :=
    Except.mapError_eq_error_iff.mpr ⟨fault, hfault, rfl⟩
  unfold sealedReport
  rw [hread, Session.check_error, Session.throw_bind]

end

/-! ## Main result -/

/-- The texts that are read as a request and as a record are the arrays of seven texts. Any
other document of one kind is refused as one of the other kind, whoever seals it. -/
theorem shared_documents {m : Type → Type} [Monad m] [LawfulMonad m] (text : String) :
    (((∃ c, ofJson .fundsRequest text = .ok c) ∧ ∃ c, ofJson .transferRecord text = .ok c) ↔
        IsSevenTexts text) ∧
      (¬ IsSevenTexts text → ∀ kind c, ofJson kind text = .ok c → ∀ other, other ≠ kind →
        ∀ (host : Host m) own recipient, ∃ detail,
          sealedReport host own recipient other text =
            throw (.ofFailure (.serialization detail))) := by
  have hshared : ((∃ c, ofJson .fundsRequest text = .ok c) ∧
      ∃ c, ofJson .transferRecord text = .ok c) ↔ IsSevenTexts text := by
    constructor
    · rintro ⟨⟨q, hq⟩, r, hr⟩
      obtain ⟨hqkind, hq⟩ := ofJson_eq_ok_iff.mp hq
      obtain ⟨hrkind, hr⟩ := ofJson_eq_ok_iff.mp hr
      cases q with
      | transferRecord _ => cases hqkind
      | fundsRequest q =>
        cases r with
        | fundsRequest _ => cases hrkind
        | transferRecord r => exact IsDocument.seven_texts hq hr
    · rintro ⟨a, b, c, d, e, f, g, htext⟩
      exact ⟨⟨_, ofJson_eq_ok_iff.mpr ⟨rfl, isDocument_request htext⟩⟩,
        _, ofJson_eq_ok_iff.mpr ⟨rfl, isDocument_record htext⟩⟩
  refine ⟨hshared, fun hnot kind c hc other hother host own recipient => ?_⟩
  refine sealedReport_of_unreadable (fun d hd => ?_) host own recipient
  apply hnot
  rw [← hshared]
  cases kind with
  | fundsRequest =>
    cases other with
    | fundsRequest => exact absurd rfl hother
    | transferRecord => exact ⟨⟨c, hc⟩, d, hd⟩
  | transferRecord =>
    cases other with
    | fundsRequest => exact ⟨⟨d, hd⟩, c, hc⟩
    | transferRecord => exact absurd rfl hother

/-- A request with three texts left out is an object, and no record. -/
theorem shared_documents_request :
    let text := "\x7b\"payee_public_address\":\"a\",\"amount\":\"b\"," ++
      "\"chain_code\":\"c\",\"token_code\":\"d\"\x7d"
    ¬ IsSevenTexts text ∧
      ofJson .fundsRequest text = .ok (.fundsRequest ⟨"a", "b", "c", "d", none, none, none⟩) ∧
      ∀ host : Host Id, ∃ detail,
        sealedReport host ⟨1, by decide, by decide⟩ "" .transferRecord text =
          throw (.ofFailure (.serialization detail)) := by
  intro text
  obtain ⟨hread, hnone⟩ : (ofJson .fundsRequest text).toOption =
        some (.fundsRequest ⟨"a", "b", "c", "d", none, none, none⟩) ∧
      (ofJson .transferRecord text).toOption = none := by
    decide +kernel
  have hrequest := Except.toOption_eq_some_iff.mp hread
  obtain ⟨hshared, hrefused⟩ := shared_documents (m := Id) text
  have hnot : ¬ IsSevenTexts text := by
    rw [← hshared]
    rintro ⟨-, c, hc⟩
    rw [hc] at hnone
    cases hnone
  refine ⟨hnot, hrequest, fun host => ?_⟩
  exact hrefused hnot .fundsRequest _ hrequest .transferRecord (by decide) host _ _

/-- An array of seven texts is content of both kinds. -/
theorem seven_texts_of_both_kinds :
    ofJson .fundsRequest "[\"a\",\"b\",\"c\",\"d\",\"e\",\"f\",\"g\"]" =
        .ok (.fundsRequest ⟨"a", "b", "c", "d", some "e", some "f", some "g"⟩) ∧
      ofJson .transferRecord "[\"a\",\"b\",\"c\",\"d\",\"e\",\"f\",\"g\"]" =
        .ok (.transferRecord ⟨"a", "b", "c", "d", "e", "f", "g", none, none, none⟩) := by
  rw [← Except.toOption_eq_some_iff, ← Except.toOption_eq_some_iff]
  decide +kernel

end OffchainSeal.Content
