import OffchainSeal.Proofs.Content.Reading
import OffchainSeal.Proofs.Json.Render

/-!
# Rows as whole documents

Which texts are read as a row, and the text that is written for one, for schemas whose
fields have distinct names.

* `Row.ofDocument_eq_ok_iff`: exactly the documents of the row are read as it.
* `Row.hasTree_toTree`: the written document is one of them.
-/

namespace OffchainSeal.Content

open Json

/-! ## Rows of members -/

/-- With distinct keys, what is found under a key is what stands there, and none if
nothing does. -/
theorem join_lookup_eq_iff {qs : Members} (h : (qs.map Prod.fst).Nodup) {key : List Char}
    {o : Option String} :
    (qs.lookup key).join = o ↔ (key, o) ∈ qs ∨ key ∉ qs.map Prod.fst ∧ o = none := by
  cases hlookup : qs.lookup key with
  | none =>
    have hkey : key ∉ qs.map Prod.fst := by
      intro hmem
      obtain ⟨q, hq, rfl⟩ := List.mem_map.mp hmem
      simpa using List.lookup_eq_none_iff.mp hlookup q hq
    constructor
    · rintro rfl
      exact .inr ⟨hkey, rfl⟩
    · rintro (hmem | ⟨-, rfl⟩)
      · exact absurd (List.mem_map_of_mem hmem) hkey
      · rfl
  | some o' =>
    have hmem : (key, o') ∈ qs := (List.lookup_eq_some_iff_mem h).mp hlookup
    constructor
    · rintro rfl
      exact .inl hmem
    · rintro (hmem' | ⟨hkey, -⟩)
      · exact (Prod.mk.inj (List.inj_on_of_nodup_map h hmem hmem' rfl)).2
      · exact absurd (List.mem_map_of_mem hmem) hkey

theorem rowOfMembers_eq_ok_iff {qs : Members} {fs : Schema} {row : Row fs} :
    rowOfMembers qs fs = .ok row ↔ ∀ e ∈ row.entries, (qs.lookup e.1.name.toList).join = e.2 := by
  induction row with
  | nil => simp [rowOfMembers, Row.entries]
  | @cons f fs v row ih =>
    rw [rowOfMembers, Row.entries, List.forall_mem_cons, ← ih]
    have hv := @ofOption?_eq_some_iff f.presence (qs.lookup f.name.toList).join v
    rw [eq_comm] at hv
    constructor
    · intro h
      split at h
      · cases h
      · next v' hv' =>
        obtain ⟨row', hrow, heq⟩ := Except.map_eq_ok_iff.mp h
        cases heq
        exact ⟨(hv.mp hv'.symm).symm, hrow⟩
    · rintro ⟨hlookup, hrow⟩
      rw [← hv.mpr hlookup.symm, hrow]
      rfl

/-! ## Objects of rows -/

theorem textOrNull_injective : Function.Injective textOrNull := by
  intro o o' h
  cases o with
  | none =>
    cases o' with
    | none => rfl
    | some s' => cases h
  | some s =>
    cases o' with
    | none => cases h
    | some s' => rw [String.toList_injective (Tree.text.inj h)]

theorem treeOf_injective : Function.Injective treeOf := by
  intro q q' h
  obtain ⟨hkey, hvalue⟩ := Prod.mk.inj h
  exact Prod.ext hkey (textOrNull_injective hvalue)

theorem map_fst_map_treeOf (qs : Members) : (qs.map treeOf).map Prod.fst = qs.map Prod.fst := by
  rw [List.map_map]
  rfl

theorem Row.exists_value_of_mem_entries {fs : Schema} {row : Row fs} {e : Field × Option String}
    (he : e ∈ row.entries) : ∃ v : e.1.presence.Value, Presence.Value.toOption v = e.2 := by
  induction row with
  | nil => cases he
  | cons v row ih =>
    rcases List.mem_cons.mp he with rfl | he
    · exact ⟨v, rfl⟩
    · exact ih he

theorem Row.exists_mem_entries {fs : Schema} (row : Row fs) {f : Field} (hf : f ∈ fs) :
    ∃ o, (f, o) ∈ row.entries := by
  rw [← row.map_fst_entries] at hf
  obtain ⟨e, he, rfl⟩ := List.mem_map.mp hf
  exact ⟨e.2, he⟩

/-- With distinct names, a field is found under its name. -/
theorem find?_name_eq_some {schema : Schema} (hnames : (schema.map Field.name).Nodup) {f : Field}
    (hf : f ∈ schema) : schema.find? (fun g => g.name.toList = f.name.toList) = some f := by
  have hsome : (schema.find? fun g => g.name.toList = f.name.toList).isSome = true :=
    List.find?_isSome.mpr ⟨f, hf, by simp⟩
  obtain ⟨g, hg⟩ := Option.isSome_iff_exists.mp hsome
  have hname : g.name = f.name := String.toList_injective (by simpa using List.find?_some hg)
  rw [hg, List.inj_on_of_nodup_map hnames (List.mem_of_find?_eq_some hg) hf hname]

theorem Row.hasMembers_map_treeOf_iff {fs : Schema} {row : Row fs} {qs : Members} :
    row.HasMembers (qs.map treeOf) ↔ (qs.map Prod.fst).Nodup ∧
      (∀ q ∈ qs, ∃ f ∈ fs, q.1 = f.name.toList) ∧ rowOfMembers qs fs = .ok row := by
  rw [HasMembers, map_fst_map_treeOf, List.forall_mem_map, rowOfMembers_eq_ok_iff]
  refine and_congr_right fun hnodup => and_congr_right fun _ => forall₂_congr fun e _ => ?_
  rw [join_lookup_eq_iff hnodup]
  exact or_congr_left (@List.mem_map_of_injective _ _ _ treeOf_injective (e.1.name.toList, e.2) qs)

/-- Members of a row are texts and nulls. -/
theorem Row.HasMembers.exists_eq_map {fs : Schema} {row : Row fs} {ms : List (List Char × Tree)}
    (h : row.HasMembers ms) : ∃ qs : Members, ms = qs.map treeOf := by
  have hrange : ms ∈ Set.range (List.map treeOf) := by
    rw [Set.range_list_map]
    intro m hm
    rcases h.isFlat m hm with hnull | ⟨s, htext⟩
    · exact ⟨(m.1, none), Prod.ext rfl hnull.symm⟩
    · refine ⟨(m.1, some (String.ofList s)), Prod.ext rfl ?_⟩
      rw [htext, treeOf, textOrNull, String.toList_ofList]
  obtain ⟨qs, hqs⟩ := hrange
  exact ⟨qs, hqs.symm⟩

theorem Row.HasMembers.admits {fs : Schema} (hnames : (fs.map Field.name).Nodup) {row : Row fs}
    {qs : Members} (h : row.HasMembers (qs.map treeOf)) : ∀ q ∈ qs, Admits fs q := by
  intro q hq
  have hmem : treeOf q ∈ qs.map treeOf := List.mem_map_of_mem hq
  obtain ⟨f, hf, hkey⟩ := h.2.1 _ hmem
  obtain ⟨o, he⟩ := row.exists_mem_entries hf
  have hvalue : q.2 = o := by
    rcases h.2.2 _ he with hmem' | ⟨hkeys, -⟩
    · have heq := List.inj_on_of_nodup_map h.1 hmem hmem' hkey
      exact textOrNull_injective (Prod.mk.inj heq).2
    · exact absurd (List.mem_map.mpr ⟨_, hmem, hkey⟩) hkeys
  refine ⟨f, ?_, hvalue ▸ Row.exists_value_of_mem_entries he⟩
  rw [show q.1 = f.name.toList from hkey]
  exact find?_name_eq_some hnames hf

/-- An object is read as a row exactly if its members are those of the row. -/
theorem readMembers_row_iff {fs : Schema} (hnames : (fs.map Field.name).Nodup) {row : Row fs}
    {s rest : List Char} :
    (∃ all, readMembers fs [] s = .ok (all, rest) ∧ rowOfMembers all fs = .ok row) ↔
      ∃ ms, row.HasMembers ms ∧ Continues (MemberForm ValueForm) '\x7d' true ms s rest := by
  constructor
  · rintro ⟨all, hread, hrow⟩
    obtain ⟨qs, rfl, hnodup, hqs, hrest⟩ := readMembers_eq_ok_iff.mp hread
    rw [List.append_nil] at hrow
    have hperm := (qs.reverse_perm.map treeOf)
    refine ⟨qs.map treeOf, .of_perm hperm (Row.hasMembers_map_treeOf_iff.mpr ⟨?_, ?_, hrow⟩), hrest⟩
    · exact (qs.reverse_perm.map Prod.fst).nodup_iff.mpr hnodup
    · intro q hq
      obtain ⟨f, hf, -⟩ := (hqs q (List.mem_reverse.mp hq)).2
      exact ⟨f, List.mem_of_find?_eq_some hf, by simpa [eq_comm] using List.find?_some hf⟩
  · rintro ⟨ms, hms, hrest⟩
    obtain ⟨qs, rfl⟩ := hms.exists_eq_map
    have hreverse := Row.HasMembers.of_perm (qs.reverse_perm.map treeOf).symm hms
    refine ⟨qs.reverse, readMembers_eq_ok_iff.mpr ⟨qs, by simp, ?_, fun q hq => ?_, hrest⟩,
      (Row.hasMembers_map_treeOf_iff.mp hreverse).2.2⟩
    · rw [← map_fst_map_treeOf]
      exact hms.1
    · exact ⟨List.not_mem_nil, hms.admits hnames q hq⟩

/-! ## Whole documents -/

theorem readRow_eq_ok_iff {expected : String} {schema : Schema}
    (hnames : (schema.map Field.name).Nodup) {row : Row schema} {s rest : List Char} :
    readRow expected schema s = .ok (row, rest) ↔
      (∃ inner ms, skipBlanks s = '\x7b' :: inner ∧ row.HasMembers ms ∧
        Continues (MemberForm ValueForm) '\x7d' true ms inner rest) ∨
      ∃ inner ts, skipBlanks s = '[' :: inner ∧ row.HasElements ts ∧
        Continues ValueForm ']' true ts inner rest := by
  constructor
  · intro h
    unfold readRow at h
    dsimp only at h
    split at h
    · next inner hs =>
      rw [Except.bind_eq_ok_iff] at h
      obtain ⟨⟨all, rest'⟩, hread, h⟩ := h
      obtain ⟨row', hrow, h⟩ := Except.bind_eq_ok_iff.mp h
      cases h
      obtain ⟨ms, hms, hrest⟩ := (readMembers_row_iff hnames).mp ⟨all, hread, hrow⟩
      exact .inl ⟨inner, ms, hs, hms, hrest⟩
    · next inner hs =>
      rw [Except.bind_eq_ok_iff] at h
      obtain ⟨⟨row', s'⟩, hrow, h⟩ := h
      dsimp only at h
      split at h
      · next hs' =>
        cases h
        obtain ⟨ts, hts, hrest⟩ := readElements_iff.mp ⟨s', hrow, hs'⟩
        exact .inr ⟨inner, ts, hs, hts, hrest⟩
      · cases h
    · cases h
  · rintro (⟨inner, ms, hs, hms, hrest⟩ | ⟨inner, ts, hs, hts, hrest⟩)
    · obtain ⟨all, hread, hrow⟩ := (readMembers_row_iff hnames).mpr ⟨ms, hms, hrest⟩
      simp only [readRow, hs, hread, Except.ok_bind, hrow]
      rfl
    · obtain ⟨s', hrow, hs'⟩ := (@readElements_iff expected schema.length 0 _ _ _ _).mpr
        ⟨ts, hts, hrest⟩
      simp only [readRow, hs, hrow, Except.ok_bind, hs']
      rfl

/-- A text is read as a row exactly if it stands for a value that stands for the row. -/
theorem Row.ofDocument_eq_ok_iff {expected : String} {schema : Schema}
    (hnames : (schema.map Field.name).Nodup) {row : Row schema} {s : List Char} :
    Row.ofDocument expected schema s = .ok row ↔ ∃ t, Denotes s t ∧ row.HasTree t := by
  have hrest : Row.ofDocument expected schema s = .ok row ↔
      ∃ rest, readRow expected schema s = .ok (row, rest) ∧ AreBlanks rest := by
    unfold Row.ofDocument
    rw [Except.bind_eq_ok_iff]
    constructor
    · rintro ⟨⟨row', rest⟩, hread, h⟩
      dsimp only at h
      split_ifs at h with hblanks
      cases h
      exact ⟨rest, hread, skipBlanks_eq_nil_iff.mp (List.isEmpty_iff.mp hblanks)⟩
    · rintro ⟨rest, hread, hblanks⟩
      refine ⟨(row, rest), hread, ?_⟩
      dsimp only
      rw [skipBlanks_eq_nil_iff.mpr hblanks]
      rfl
  rw [hrest]
  constructor
  · rintro ⟨rest, hread, hblanks⟩
    rcases (readRow_eq_ok_iff hnames).mp hread with
      ⟨inner, ms, hs, hms, hinner⟩ | ⟨inner, ts, hs, hts, hinner⟩
    · exact ⟨.object ms, denotes_object_iff.mpr ⟨inner, rest, hs, hinner, hblanks⟩, hms⟩
    · exact ⟨.array ts, denotes_array_iff.mpr ⟨inner, rest, hs, hinner, hblanks⟩, hts⟩
  · rintro ⟨t, hs, ht⟩
    cases t with
    | object ms =>
      obtain ⟨inner, rest, hs, hinner, hblanks⟩ := denotes_object_iff.mp hs
      exact ⟨rest, (readRow_eq_ok_iff hnames).mpr (.inl ⟨inner, ms, hs, ht, hinner⟩), hblanks⟩
    | array ts =>
      obtain ⟨inner, rest, hs, hinner, hblanks⟩ := denotes_array_iff.mp hs
      exact ⟨rest, (readRow_eq_ok_iff hnames).mpr (.inr ⟨inner, ts, hs, ht, hinner⟩), hblanks⟩
    | _ => exact ht.elim

/-! ## Written rows -/

theorem Row.mem_present_iff {fs : Schema} {row : Row fs} {m : String × String} :
    m ∈ row.present ↔ ∃ f, (f, some m.2) ∈ row.entries ∧ f.name = m.1 := by
  induction row with
  | nil => simp [Row.present, Row.entries]
  | @cons f fs v row ih =>
    rw [Row.present, Row.entries]
    cases hv : Presence.Value.toOption v with
    | none => simp [ih]
    | some s =>
      rw [List.mem_cons, ih]
      constructor
      · rintro (rfl | ⟨g, hg, hname⟩)
        · exact ⟨f, List.mem_cons_self, rfl⟩
        · exact ⟨g, List.mem_cons_of_mem _ hg, hname⟩
      · rintro ⟨g, hg, hname⟩
        rcases List.mem_cons.mp hg with heq | hg
        · obtain ⟨rfl, hs⟩ := Prod.mk.inj heq
          exact .inl (Prod.ext hname.symm (Option.some.inj hs))
        · exact .inr ⟨g, hg, hname⟩

theorem Row.present_names_sublist {fs : Schema} (row : Row fs) :
    (row.present.map Prod.fst).Sublist (fs.map Field.name) := by
  induction row with
  | nil => exact .slnil
  | cons v row ih =>
    rw [Row.present]
    cases Presence.Value.toOption v with
    | none => exact ih.cons _
    | some s => exact ih.cons_cons _

/-- The members that are written for a row. -/
def Row.members {fs : Schema} (row : Row fs) : List (List Char × Tree) :=
  row.present.map fun m => (m.1.toList, .text m.2.toList)

theorem treesOf_map_text (ms : List (String × String)) :
    treesOf (ms.map fun m => (m.1, .text m.2)) =
      ms.map fun m => (m.1.toList, Tree.text m.2.toList) := by
  induction ms with
  | nil => rfl
  | cons m ms ih => rw [List.map_cons, treesOf, ih, Value.toTree, List.map_cons]

theorem Row.toTree_toDocument {fs : Schema} (row : Row fs) :
    row.toDocument.toTree = .object row.members := by
  rw [Row.toDocument, Value.toTree, treesOf_map_text, Row.members]

/-- The written members are members of the row. -/
theorem Row.hasMembers_members {fs : Schema} (hnames : (fs.map Field.name).Nodup) (row : Row fs) :
    row.HasMembers row.members := by
  have hkeys : row.members.map Prod.fst = (row.present.map Prod.fst).map String.toList := by
    rw [Row.members, List.map_map, List.map_map]
    rfl
  refine ⟨?_, fun m hm => ?_, fun e he => ?_⟩
  · rw [hkeys]
    exact (hnames.sublist row.present_names_sublist).map fun _ _ => String.toList_injective
  · obtain ⟨m', hm', rfl⟩ := List.mem_map.mp hm
    obtain ⟨f, hf, hname⟩ := Row.mem_present_iff.mp hm'
    refine ⟨f, ?_, congrArg String.toList hname.symm⟩
    rw [← row.map_fst_entries]
    exact List.mem_map_of_mem hf
  · obtain ⟨f, o⟩ := e
    cases o with
    | some s =>
      have hm : (f.name, s) ∈ row.present := Row.mem_present_iff.mpr ⟨f, he, rfl⟩
      exact .inl (List.mem_map_of_mem hm)
    | none =>
      refine .inr ⟨fun hkey => ?_, rfl⟩
      rw [hkeys] at hkey
      obtain ⟨name, hname, heq⟩ := List.mem_map.mp hkey
      obtain rfl : name = f.name := String.toList_injective heq
      obtain ⟨m, hm, hm'⟩ := List.mem_map.mp hname
      obtain ⟨g, hg, hg'⟩ := Row.mem_present_iff.mp hm
      have hentries : (row.entries.map (Field.name ∘ Prod.fst)).Nodup := by
        rw [← List.map_map, row.map_fst_entries]
        exact hnames
      cases List.inj_on_of_nodup_map hentries hg he (hg'.trans hm')

end OffchainSeal.Content
