import OffchainSeal.Content.Document
import OffchainSeal.Proofs.Content.Tree
import OffchainSeal.Proofs.Result

/-!
# Reading rows from documents

What the readers of values, elements and members accept, and what they give.

* `readValue_eq_ok_iff`: a value of a field.
* `readElements_iff`: the elements of an array.
* `readMembers_eq_ok_iff`: the members of an object.
-/

namespace OffchainSeal.Content

open Json

/-! ## Single values -/

theorem readText_eq_ok_iff {s rest : List Char} {x : String} :
    readText s = .ok (x, rest) ↔ Starts ValueForm s (.text x.toList) rest := by
  rw [starts_text_iff, starts_string_iff]
  unfold readText
  constructor
  · intro h
    dsimp only at h
    split at h
    · next s' hs =>
      split at h
      · next hx =>
        cases h
        exact ⟨s', hs, by rw [hx, String.toList_ofList]⟩
      · cases h
    · cases h
  · rintro ⟨s', hs, hx⟩
    simp only [hs, hx, String.ofList_toList]

theorem readText_skipBlanks (s : List Char) : readText (skipBlanks s) = readText s := by
  unfold readText
  rw [skipBlanks_skipBlanks]

theorem readOptionalText_of_letter {s more : List Char} (h : skipBlanks s = 'n' :: more)
    {o : Option String} {rest : List Char} :
    readOptionalText s = .ok (o, rest) ↔ o = none ∧ more = 'u' :: 'l' :: 'l' :: rest := by
  have hword := @afterWord?_eq_some_iff ['u', 'l', 'l'] more rest
  unfold readOptionalText
  rw [h]
  constructor
  · intro hread
    cases hafter : afterWord? ['u', 'l', 'l'] more with
    | none => simp [hafter] at hread
    | some rest' =>
      simp only [hafter, Except.ok.injEq, Prod.mk.injEq] at hread
      obtain ⟨rfl, rfl⟩ := hread
      exact ⟨rfl, hword.mp hafter⟩
  · rintro ⟨rfl, hmore⟩
    simp [hword.mpr hmore]

theorem readOptionalText_of_other {s : List Char} (h : ∀ more, skipBlanks s ≠ 'n' :: more) :
    readOptionalText s = (readText s).map fun r => (some r.1, r.2) := by
  unfold readOptionalText
  split
  · next hs => exact absurd hs (h _)
  · rw [readText_skipBlanks]

theorem readOptionalText_eq_ok_iff {s rest : List Char} {o : Option String} :
    readOptionalText s = .ok (o, rest) ↔ Starts ValueForm s (textOrNull o) rest := by
  by_cases h : ∃ more, skipBlanks s = 'n' :: more
  · obtain ⟨more, hs⟩ := h
    rw [readOptionalText_of_letter hs]
    constructor
    · rintro ⟨rfl, rfl⟩
      exact starts_null_iff.mpr hs
    · intro hstarts
      cases o with
      | none =>
        rw [textOrNull, starts_null_iff, hs, List.cons.injEq] at hstarts
        exact ⟨rfl, hstarts.2⟩
      | some x => exact absurd (hstarts.shape hs) (show shapeAt 'n' ≠ some .text by decide)
  · have hother : ∀ more, skipBlanks s ≠ 'n' :: more := fun more hs => h ⟨more, hs⟩
    rw [readOptionalText_of_other hother, Except.map_eq_ok_iff]
    constructor
    · rintro ⟨⟨x, rest'⟩, hread, heq⟩
      cases heq
      exact readText_eq_ok_iff.mp hread
    · intro hstarts
      cases o with
      | none => exact absurd (starts_null_iff.mp hstarts) (hother _)
      | some x => exact ⟨(x, rest), readText_eq_ok_iff.mpr hstarts, rfl⟩

/-- A reader takes the values of its field, null for none. -/
theorem readValue_eq_ok_iff {p : Presence} {v : p.Value} {s rest : List Char} :
    readValue p s = .ok (v, rest) ↔
      Starts ValueForm s (textOrNull (Presence.Value.toOption v)) rest := by
  cases p with
  | required => exact readText_eq_ok_iff
  | optional => exact readOptionalText_eq_ok_iff

theorem ofOption?_eq_some_iff {p : Presence} {o : Option String} {v : p.Value} :
    p.ofOption? o = some v ↔ Presence.Value.toOption v = o := by
  cases p with
  | required =>
    rw [Presence.ofOption?, Presence.Value.toOption, eq_comm]
  | optional =>
    rw [Presence.ofOption?, Presence.Value.toOption, Option.some.injEq, eq_comm]

/-! ## Elements -/

theorem readValue_skipBlanks (p : Presence) (s : List Char) :
    readValue p (skipBlanks s) = readValue p s := by
  cases p with
  | required => exact readText_skipBlanks s
  | optional =>
    unfold readValue readOptionalText
    rw [skipBlanks_skipBlanks]

theorem nextElement_eq_none_iff {first : Bool} {s : List Char} :
    nextElement first s = .ok none ↔ ∃ more, skipBlanks s = ']' :: more := by
  constructor
  · intro h
    unfold nextElement at h
    split at h
    · cases h
    · next more hs => exact ⟨more, hs⟩
    · split_ifs at h
      · cases h
      · split at h <;> cases h
  · rintro ⟨more, hs⟩
    simp [nextElement, hs]

/-- An element begins after its comma and is not the closing sign. -/
theorem nextElement_eq_some_iff {first : Bool} {s s' : List Char} :
    nextElement first s = .ok (some s') ↔ ∃ s₁, afterLead? first s = some s₁ ∧
      s' = skipBlanks s₁ ∧ s' ≠ [] ∧ ∀ more, s' ≠ ']' :: more := by
  constructor
  · intro h
    unfold nextElement at h
    split at h
    · cases h
    · cases h
    · next c rest hstop hs =>
      split_ifs at h with hfirst hcomma
      · cases h
        refine ⟨s, by rw [hfirst]; rfl, hs.symm, by simp, ?_⟩
        rintro more heq
        exact hstop (List.cons.inj heq).1
      · split at h
        · cases h
        · cases h
        · next hnil hstop' =>
          cases h
          refine ⟨rest, ?_, rfl, hnil, hstop'⟩
          rw [Bool.eq_false_of_not_eq_true hfirst, afterLead?_false_iff, hs, hcomma]
  · rintro ⟨s₁, hs₁, rfl, hnil, hstop⟩
    cases first with
    | true =>
      obtain rfl := Option.some.inj hs₁
      unfold nextElement
      split
      · next hs => exact absurd hs hnil
      · next hs => exact absurd hs (hstop _)
      · next hs => rw [hs]; rfl
    | false =>
      rw [afterLead?_false_iff] at hs₁
      unfold nextElement
      split
      · next hs => cases hs₁.symm.trans hs
      · next hs => cases hs₁.symm.trans hs
      · next hs =>
        obtain ⟨rfl, rfl⟩ := List.cons.inj (hs₁.symm.trans hs)
        rw [if_neg Bool.false_ne_true, if_pos rfl]
        split
        · next hs => exact absurd hs hnil
        · next hs => exact absurd hs (hstop _)
        · rfl

section

variable {expected : String} {total index : ℕ} {f : Field} {fs : Schema} {v : f.presence.Value}
  {row : Row fs} {s rest : List Char}

/-- The first element is read if there is one, and otherwise its value has to be none. -/
theorem readElements_cons_eq_ok_iff :
    readElements expected total index (f :: fs) s = .ok (.cons v row, rest) ↔
      (∃ s₁ s₂, nextElement (index = 0) s = .ok (some s₁) ∧
        readValue f.presence s₁ = .ok (v, s₂) ∧
          readElements expected total (index + 1) fs s₂ = .ok (row, rest)) ∨
      nextElement (index = 0) s = .ok none ∧ Presence.Value.toOption v = none ∧
        readElements expected total (index + 1) fs s = .ok (row, rest) := by
  rw [readElements]
  cases hnext : nextElement (index = 0) s with
  | error e => simp [Except.error_bind]
  | ok next =>
    rw [Except.ok_bind]
    cases next with
    | some s₁ =>
      simp only [Except.bind_eq_ok_iff]
      constructor
      · rintro ⟨⟨v', s₂⟩, hv, ⟨row', rest'⟩, hrow, h⟩
        cases h
        exact .inl ⟨s₁, s₂, rfl, hv, hrow⟩
      · rintro (⟨_, s₂, h, hv, hrow⟩ | ⟨h, -⟩)
        · cases h
          exact ⟨(v, s₂), hv, (row, rest), hrow, rfl⟩
        · cases h
    | none =>
      rw [← ofOption?_eq_some_iff]
      dsimp only
      split
      · next hnone => simp [hnone]
      · next v' hv' =>
        rw [hv']
        simp only [Except.bind_eq_ok_iff]
        constructor
        · rintro ⟨⟨row', rest'⟩, hrow, h⟩
          cases h
          exact .inr ⟨trivial, rfl, hrow⟩
        · rintro (⟨_, _, h, -⟩ | ⟨-, h, hrow⟩)
          · cases h
          · cases h
            exact ⟨(row, rest), hrow, rfl⟩

end

/-- The elements up to the closing sign are read exactly if they are the elements of the
row. -/
theorem readElements_iff {expected : String} {total index : ℕ} {fs : Schema} {row : Row fs}
    {s rest : List Char} :
    (∃ s', readElements expected total index fs s = .ok (row, s') ∧ skipBlanks s' = ']' :: rest) ↔
      ∃ ts, row.HasElements ts ∧ Continues ValueForm ']' (index = 0) ts s rest := by
  induction fs generalizing index s with
  | nil =>
    cases row
    constructor
    · rintro ⟨s', h, hs'⟩
      cases h
      have hnone : Row.nil.HasElements [] := by simp [Row.HasElements, Row.entries]
      exact ⟨[], hnone, (continues_nil_iff rfl).mpr hs'⟩
    · rintro ⟨ts, hts, hs⟩
      obtain rfl : ts = [] := by simpa [Row.entries] using hts.1
      exact ⟨s, rfl, (continues_nil_iff rfl).mp hs⟩
  | cons f fs ih =>
    cases row with
    | cons v row =>
    simp only [readElements_cons_eq_ok_iff]
    constructor
    · rintro ⟨s', ⟨s₁, s₂, hs₁, hv, hrow⟩ | ⟨hs, hv, hrow⟩, hs'⟩
      · obtain ⟨s₁, hlead, rfl, -, -⟩ := nextElement_eq_some_iff.mp hs₁
        rw [readValue_skipBlanks, readValue_eq_ok_iff] at hv
        obtain ⟨ts, hts, hrest⟩ := ih.mp ⟨s', hrow, hs'⟩
        exact ⟨_ :: ts, Row.hasElements_cons_iff.mpr ⟨rfl, hts⟩,
          continues_cons_iff.mpr ⟨s₁, s₂, hlead, hv, hrest⟩⟩
      -- The closing sign is there already, so no later field has an element either.
      · obtain ⟨more, hs⟩ := nextElement_eq_none_iff.mp hs
        obtain ⟨ts, hts, hrest⟩ := ih.mp ⟨s', hrow, hs'⟩
        obtain rfl := hrest.eq_nil (by decide) Starts.ne_bracket hs
        refine ⟨[], ?_, (continues_nil_iff rfl).mpr ((continues_nil_iff rfl).mp hrest)⟩
        exact Row.hasElements_cons_nil_iff.mpr ⟨hv, hts⟩
    · rintro ⟨ts, hts, hrest⟩
      cases ts with
      | nil =>
        have hs := (continues_nil_iff rfl).mp hrest
        obtain ⟨hv, hts⟩ := Row.hasElements_cons_nil_iff.mp hts
        obtain ⟨s', hrow, hs'⟩ := (@ih (index + 1) row s).mpr
          ⟨[], hts, (continues_nil_iff rfl).mpr hs⟩
        exact ⟨s', .inr ⟨nextElement_eq_none_iff.mpr ⟨rest, hs⟩, hv, hrow⟩, hs'⟩
      | cons t ts =>
        obtain ⟨s₁, s₂, hlead, hv, hmore⟩ := continues_cons_iff.mp hrest
        obtain ⟨rfl, htail⟩ := Row.hasElements_cons_iff.mp hts
        obtain ⟨s', hrow, hs'⟩ := (@ih (index + 1) row s₂).mpr ⟨ts, htail, hmore⟩
        obtain ⟨c, more, hc, -⟩ := hv.head
        have hnext := nextElement_eq_some_iff.mpr
          ⟨s₁, hlead, rfl, by simp [hc], fun _ => hv.ne_bracket⟩
        refine ⟨s', .inl ⟨skipBlanks s₁, s₂, hnext, ?_, hrow⟩, hs'⟩
        rw [readValue_skipBlanks]
        exact readValue_eq_ok_iff.mpr hv

/-! ## Members -/

/-- A member with its value as in a document. -/
def treeOf (m : List Char × Option String) : List Char × Tree :=
  (m.1, textOrNull m.2)

/-- The key names a field of the schema, and the text is one of its values. -/
def Admits (schema : Schema) (m : List Char × Option String) : Prop :=
  ∃ f, schema.find? (fun f => f.name.toList = m.1) = some f ∧
    ∃ v : f.presence.Value, Presence.Value.toOption v = m.2

theorem nextMember?_skipBlanks (first : Bool) (s : List Char) :
    nextMember? first (skipBlanks s) = (afterLead? first s).map skipBlanks := by
  unfold nextMember? afterLead?
  cases first with
  | true => rfl
  | false =>
    cases skipBlanks s with
    | nil => rfl
    | cons c more =>
      by_cases hc : c = ','
      · rw [hc]
        rfl
      · simp [hc]

/-- What stands before the value of a member. -/
theorem starts_member_of_key {s s₁ s₂ s₃ key rest : List Char} {t : Tree}
    (hs : skipBlanks s = '"' :: s₁) (hkey : string? s₁ = some (key, s₂))
    (hcolon : skipBlanks s₂ = ':' :: s₃) (hvalue : Starts ValueForm s₃ t rest) :
    Starts (MemberForm ValueForm) s (key, t) rest :=
  starts_member_iff.mpr ⟨s₂, s₃, starts_string_iff.mpr ⟨s₁, hs, hkey⟩, hcolon, hvalue⟩

/-- What was read are members of the grammar, with keys that are new and distinct. -/
theorem exists_members_of_readMembers {schema : Schema} {seen all : Members}
    {s rest : List Char} (h : readMembers schema seen s = .ok (all, rest)) :
    ∃ qs : Members, all = qs.reverse ++ seen ∧ (qs.map Prod.fst).Nodup ∧
      (∀ q ∈ qs, q.1 ∉ seen.map Prod.fst ∧ Admits schema q) ∧
        Continues (MemberForm ValueForm) '\x7d' seen.isEmpty (qs.map treeOf) s rest := by
  -- Only two branches succeed: the closing sign, and one more member and what follows it.
  fun_induction readMembers schema seen s with
  | case1 seen s more hs =>
    cases h
    exact ⟨[], rfl, .nil, by simp, (continues_nil_iff rfl).mpr hs⟩
  | case6 seen s s₂ key s₃ hkey f hf hseen s₄ hcolon v s₅ hvalue _ hstart _ ih =>
    rw [nextMember?_skipBlanks, Option.map_eq_some_iff] at hstart
    obtain ⟨s₁, hlead, hs₁⟩ := hstart
    obtain ⟨qs, hall, hnodup, hqs, hrest⟩ := ih h
    have hmember := starts_member_of_key hs₁ hkey hcolon (readValue_eq_ok_iff.mp hvalue)
    have hnew : key ∉ seen.map Prod.fst := by simpa using hseen
    refine ⟨(key, Presence.Value.toOption v) :: qs, by simp [hall], ?_, ?_,
      continues_cons_iff.mpr ⟨s₁, s₅, hlead, hmember, hrest⟩⟩
    · refine List.nodup_cons.mpr ⟨fun hmem => ?_, hnodup⟩
      obtain ⟨q, hq, hkeys⟩ := List.mem_map.mp hmem
      exact (hqs q hq).1 (by simp [hkeys])
    · refine List.forall_mem_cons.mpr ⟨⟨hnew, f, hf, v, rfl⟩, fun q hq => ⟨?_, (hqs q hq).2⟩⟩
      exact fun hmem => (hqs q hq).1 (List.mem_cons_of_mem _ hmem)
  | _ => cases h

/-- One more member is read, in front of those that follow. -/
theorem readMembers_member {schema : Schema} {seen : Members} {s s₁ s₂ key : List Char}
    {o : Option String} (hlead : afterLead? seen.isEmpty s = some s₁)
    (hmember : Starts (MemberForm ValueForm) s₁ (key, textOrNull o) s₂)
    (hadmits : Admits schema (key, o)) (hnew : key ∉ seen.map Prod.fst) :
    readMembers schema seen s = readMembers schema ((key, o) :: seen) s₂ := by
  obtain ⟨f, hf, v, rfl⟩ := hadmits
  obtain ⟨s₃, s₄, hname, hcolon, hvalue⟩ := starts_member_iff.mp hmember
  obtain ⟨s₅, hmark, hkey⟩ := starts_string_iff.mp hname
  have hread := readValue_eq_ok_iff.mpr hvalue
  have hseen : ¬ seen.any (fun m => m.1 = key) = true := by simpa using hnew
  have hnext : nextMember? seen.isEmpty (skipBlanks s) = some ('"' :: s₅) := by
    rw [nextMember?_skipBlanks, hlead, Option.map_some, hmark]
  have hstop : ∀ more, skipBlanks s ≠ '\x7d' :: more := fun more =>
    hmember.ne_stop_of_lead (by decide) Starts.ne_brace hlead
  -- Every scanner on the way has one answer, so every other branch is excluded.
  rw [readMembers]
  split
  · next hs => exact absurd hs (hstop _)
  split
  · next hnext' =>
    cases hnext.symm.trans hnext'
    split
    · next hkey' => cases hkey.symm.trans hkey'
    · next hkey' =>
      cases hkey.symm.trans hkey'
      split
      · next hf' => cases hf.symm.trans hf'
      · next hf' =>
        cases hf.symm.trans hf'
        rw [if_neg hseen]
        split
        · next hcolon' =>
          cases hcolon.symm.trans hcolon'
          split
          · next hread' => cases hread.symm.trans hread'
          · next hread' =>
            cases hread.symm.trans hread'
            rfl
        · next hcolon' => exact absurd hcolon (hcolon' _)
  · next hnext' => exact absurd hnext (hnext' _)

theorem readMembers_stop {schema : Schema} {seen : Members} {s rest : List Char}
    (hs : skipBlanks s = '\x7d' :: rest) : readMembers schema seen s = .ok (seen, rest) := by
  rw [readMembers]
  split
  · next hs' =>
    cases hs.symm.trans hs'
    rfl
  · next hs' => exact absurd hs (hs' _)

/-- The members up to the closing sign are read exactly if their keys are new and
distinct and the schema admits them. -/
theorem readMembers_eq_ok_iff {schema : Schema} {seen all : Members} {s rest : List Char} :
    readMembers schema seen s = .ok (all, rest) ↔ ∃ qs : Members, all = qs.reverse ++ seen ∧
      (qs.map Prod.fst).Nodup ∧ (∀ q ∈ qs, q.1 ∉ seen.map Prod.fst ∧ Admits schema q) ∧
        Continues (MemberForm ValueForm) '\x7d' seen.isEmpty (qs.map treeOf) s rest := by
  refine ⟨exists_members_of_readMembers, ?_⟩
  rintro ⟨qs, rfl, hnodup, hqs, hrest⟩
  induction qs generalizing seen s with
  | nil => exact readMembers_stop ((continues_nil_iff rfl).mp hrest)
  | cons q qs ih =>
    obtain ⟨s₁, s₂, hlead, hmember, hmore⟩ := continues_cons_iff.mp hrest
    obtain ⟨⟨hnew, hadmits⟩, hothers⟩ := List.forall_mem_cons.mp hqs
    obtain ⟨hother, hnodup⟩ := List.nodup_cons.mp hnodup
    rw [readMembers_member hlead hmember hadmits hnew, @ih ((q.1, q.2) :: seen) s₂ hnodup ?_ hmore]
    · simp
    · intro q' hq'
      refine ⟨fun hmem => ?_, (hothers q' hq').2⟩
      rcases List.mem_cons.mp hmem with hkey | hmem
      · exact hother (List.mem_map.mpr ⟨q', hq', hkey⟩)
      · exact (hothers q' hq').1 hmem

end OffchainSeal.Content
