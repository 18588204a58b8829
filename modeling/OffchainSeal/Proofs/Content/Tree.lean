import OffchainSeal.Content.Basic
import OffchainSeal.Proofs.Json.Unique

/-!
# Documents of rows

Which values of documents stand for a row: objects with its fields as members, and
arrays of its values without names. A missing value may be written as null or left out.

* `Row.HasTree`: a value stands for a row.
* `Row.HasTree.of_reordered`: the order of members does not matter.
-/

namespace OffchainSeal.Content

open Json

/-- A text as a value of a document, null for none. -/
def textOrNull : Option String → Tree
  | none => .null
  | some s => .text s.toList

namespace Row

/-- The fields of a row with their texts; none is the value of an absent one. -/
def entries : {fs : Schema} → Row fs → List (Field × Option String)
  | _, .nil => []
  | f :: _, .cons value row => (f, Presence.Value.toOption value) :: row.entries

variable {fs : Schema}

/-- The elements are the values in the order of the schema. At the end, absent ones
may be left out. -/
def HasElements (row : Row fs) (ts : List Tree) : Prop :=
  ts <+: (row.entries.map fun e => textOrNull e.2) ∧ ∀ e ∈ row.entries.drop ts.length, e.2 = none

/-- The members are the fields of the schema, each at most once, in any order. Absent
ones may be left out. -/
def HasMembers (row : Row fs) (ms : List (List Char × Tree)) : Prop :=
  (ms.map Prod.fst).Nodup ∧ (∀ m ∈ ms, ∃ f ∈ fs, m.1 = f.name.toList) ∧
    ∀ e ∈ row.entries, (e.1.name.toList, textOrNull e.2) ∈ ms ∨
      e.1.name.toList ∉ ms.map Prod.fst ∧ e.2 = none

/-- The value stands for the row. -/
def HasTree (row : Row fs) : Tree → Prop
  | .array ts => row.HasElements ts
  | .object ms => row.HasMembers ms
  | _ => False

/-! ## Values of rows are flat -/

theorem isFlat_textOrNull (o : Option String) : IsFlat (textOrNull o) := by
  cases o with
  | none => exact .inl rfl
  | some s => exact .inr ⟨_, rfl⟩

theorem map_fst_entries (row : Row fs) : row.entries.map Prod.fst = fs := by
  induction row with
  | nil => rfl
  | cons value row ih => rw [entries, List.map_cons, ih]

theorem HasElements.isFlat {row : Row fs} {ts : List Tree} (h : row.HasElements ts) :
    ∀ t ∈ ts, IsFlat t := by
  intro t ht
  obtain ⟨e, -, rfl⟩ := List.mem_map.mp (h.1.subset ht)
  exact isFlat_textOrNull e.2

theorem HasMembers.isFlat {row : Row fs} {ms : List (List Char × Tree)} (h : row.HasMembers ms) :
    ∀ m ∈ ms, IsFlat m.2 := by
  obtain ⟨hnodup, hknown, hentries⟩ := h
  intro m hm
  obtain ⟨f, hf, hkey⟩ := hknown m hm
  rw [← row.map_fst_entries] at hf
  obtain ⟨e, he, rfl⟩ := List.mem_map.mp hf
  rcases hentries e he with hmem | ⟨hkeys, -⟩
  · rw [List.inj_on_of_nodup_map hnodup hm hmem hkey]
    exact isFlat_textOrNull e.2
  · exact absurd (List.mem_map.mpr ⟨m, hm, hkey⟩) hkeys

theorem HasTree.isFlatDocument {row : Row fs} {t : Tree} (h : row.HasTree t) :
    IsFlatDocument t := by
  cases t with
  | array ts => exact .inl ⟨ts, rfl, HasElements.isFlat h⟩
  | object ms => exact .inr ⟨ms, rfl, HasMembers.isFlat h⟩
  | _ => exact h.elim

/-! ## The order of members -/

theorem HasMembers.of_perm {row : Row fs} {ms ms' : List (List Char × Tree)} (hperm : ms.Perm ms')
    (h : row.HasMembers ms) : row.HasMembers ms' := by
  obtain ⟨hnodup, hknown, hentries⟩ := h
  have hkeys := hperm.map Prod.fst
  refine ⟨hkeys.nodup_iff.mp hnodup, fun m hm => hknown m (hperm.mem_iff.mpr hm), fun e he => ?_⟩
  rw [← hperm.mem_iff, ← hkeys.mem_iff]
  exact hentries e he

/-- Values that differ in the order of members stand for the same rows. -/
theorem HasTree.of_reordered {row : Row fs} {t t' : Tree} (hr : Reordered t t')
    (h : row.HasTree t) : row.HasTree t' := by
  induction hr with
  | refl t => exact h
  | trans _ _ ih ih' => exact ih' (ih h)
  | members hperm => exact HasMembers.of_perm hperm h
  | @inMember front back key t t' hr _ =>
    have hflat : IsFlat t := HasMembers.isFlat h (key, t) (by simp)
    rw [← hr.eq_of_isFlat hflat]
    exact h
  | @inElement front back t t' hr _ =>
    have hflat : IsFlat t := HasElements.isFlat h t (by simp)
    rw [← hr.eq_of_isFlat hflat]
    exact h

/-! ## One value after the other -/

theorem hasElements_nil_iff {row : Row fs} :
    row.HasElements [] ↔ ∀ e ∈ row.entries, e.2 = none := by
  simp [HasElements]

theorem hasElements_cons_nil_iff {f : Field} {value : f.presence.Value} {row : Row fs} :
    (cons value row).HasElements [] ↔
      Presence.Value.toOption value = none ∧ row.HasElements [] := by
  rw [hasElements_nil_iff, hasElements_nil_iff, entries, List.forall_mem_cons]

theorem hasElements_cons_iff {f : Field} {value : f.presence.Value} {row : Row fs} {t : Tree}
    {ts : List Tree} : (cons value row).HasElements (t :: ts) ↔
      t = textOrNull (Presence.Value.toOption value) ∧ row.HasElements ts := by
  rw [HasElements, HasElements, entries, List.map_cons, List.cons_prefix_cons, List.length_cons,
    List.drop_succ_cons, and_assoc]

end Row
end OffchainSeal.Content
