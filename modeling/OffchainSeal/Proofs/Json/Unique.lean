import OffchainSeal.Proofs.Json.Items

/-!
# Flat documents stand for one value

The first character of a value tells its type. So a document that can be read as an
array or an object of texts and nulls can be read in no other way.

* `Starts.head`: how a value begins.
* `Starts.unique`, `Continues.unique`: texts, nulls and what is made of them are read in
  one way.
* `Denotes.unique`: flat documents stand for one value.
-/

namespace OffchainSeal.Json

/-- The type of a value. -/
inductive Shape where
  | null
  | boolean
  | number
  | text
  | array
  | object
  deriving DecidableEq

/-- The type of a value as its constructor tells it. -/
def Tree.shape : Tree → Shape
  | .null => .null
  | .boolean _ => .boolean
  | .number _ => .number
  | .text _ => .text
  | .array _ => .array
  | .object _ => .object

/-- The type of the values that begin with the character. -/
def shapeAt (c : Char) : Option Shape :=
  if c = 'n' then some .null
  else if c = 't' ∨ c = 'f' then some .boolean
  else if c = '"' then some .text
  else if c = '[' then some .array
  else if c = '\x7b' then some .object
  else if c = '-' ∨ '0' ≤ c ∧ c ≤ '9' then some .number
  else none

/-- The value is a text or null. -/
def IsFlat (t : Tree) : Prop :=
  t = .null ∨ ∃ s, t = .text s

/-- The value is an array or an object of texts and nulls. -/
def IsFlatDocument (t : Tree) : Prop :=
  (∃ ts, t = .array ts ∧ ∀ u ∈ ts, IsFlat u) ∨ ∃ ms, t = .object ms ∧ ∀ m ∈ ms, IsFlat m.2

/-! ## The order of members -/

theorem Reordered.symm {t t' : Tree} (h : Reordered t t') : Reordered t' t := by
  induction h with
  | refl t => exact .refl t
  | trans _ _ ih ih' => exact .trans ih' ih
  | members hperm => exact .members hperm.symm
  | inMember _ ih => exact .inMember ih
  | inElement _ ih => exact .inElement ih

/-- A text or null has no members that could change places. -/
theorem Reordered.eq_of_isFlat {t t' : Tree} (h : Reordered t t') (hflat : IsFlat t) : t = t' := by
  induction h with
  | refl t => rfl
  | trans _ _ ih ih' =>
    obtain rfl := ih hflat
    exact ih' hflat
  | members _ => rcases hflat with h | ⟨s, h⟩ <;> cases h
  | inMember _ _ => rcases hflat with h | ⟨s, h⟩ <;> cases h
  | inElement _ _ => rcases hflat with h | ⟨s, h⟩ <;> cases h

/-! ## First characters -/

theorem shapeAt_eq_number {c : Char} (h : c = '-' ∨ '0' ≤ c ∧ c ≤ '9') :
    isBlank c = false ∧ shapeAt c = some .number := by
  have hne : ∀ d : Char, ¬ (d = '-' ∨ '0' ≤ d ∧ d ≤ '9') → c ≠ d := by
    rintro d hd rfl
    exact hd h
  constructor
  · rw [← Bool.not_eq_true, isBlank_iff]
    rintro (rfl | rfl | rfl | rfl) <;> exact absurd h (by decide)
  · unfold shapeAt
    rw [if_neg (hne _ (by decide)),
      if_neg (not_or.mpr ⟨hne _ (by decide), hne _ (by decide)⟩), if_neg (hne _ (by decide)),
      if_neg (hne _ (by decide)), if_neg (hne _ (by decide)), if_pos h]

theorem NumberForm.exists_cons {cs : List Char} (h : NumberForm cs) :
    ∃ c more, cs = c :: more ∧ (c = '-' ∨ '0' ≤ c ∧ c ≤ '9') := by
  obtain ⟨sign, whole, fraction, exponent, rfl | rfl, hwhole, -, -, -, rfl⟩ := h
  · obtain ⟨c, more, rfl⟩ := List.exists_cons_of_ne_nil hwhole.1
    exact ⟨c, _, rfl, .inr (hwhole.2 c List.mem_cons_self)⟩
  · exact ⟨'-', _, rfl, .inl rfl⟩

theorem exists_head_of_valueForm {cs : List Char} {t : Tree} (h : ValueForm cs t) :
    ∃ w c more, AreBlanks w ∧ isBlank c = false ∧ shapeAt c = some t.shape ∧
      cs = w ++ c :: more := by
  cases h with
  | null => exact ⟨[], 'n', _, areBlanks_nil, rfl, rfl, rfl⟩
  | true => exact ⟨[], 't', _, areBlanks_nil, rfl, rfl, rfl⟩
  | false => exact ⟨[], 'f', _, areBlanks_nil, rfl, rfl, rfl⟩
  | number h =>
    obtain ⟨c, more, rfl, hc⟩ := h.exists_cons
    obtain ⟨hblank, hshape⟩ := shapeAt_eq_number hc
    exact ⟨[], c, more, areBlanks_nil, hblank, hshape, rfl⟩
  | text h =>
    obtain ⟨inner, -, rfl⟩ := h
    exact ⟨[], '"', _, areBlanks_nil, rfl, rfl, rfl⟩
  | @array _ cs stop _ hstart _ _ =>
    obtain ⟨w, w', hw, -, rfl⟩ := hstart
    exact ⟨w, '[', w' ++ cs ++ stop, hw, rfl, rfl, by simp⟩
  | @object _ cs stop _ hstart _ _ =>
    obtain ⟨w, w', hw, -, rfl⟩ := hstart
    exact ⟨w, '\x7b', w' ++ cs ++ stop, hw, rfl, rfl, by simp⟩

/-- The first character after the blanks tells the type of the value. -/
theorem Starts.head {s rest : List Char} {t : Tree} (h : Starts ValueForm s t rest) :
    ∃ c more, skipBlanks s = c :: more ∧ shapeAt c = some t.shape := by
  obtain ⟨w, cs, hw, hcs, rfl⟩ := h
  obtain ⟨w', c, more, hw', hblank, hc, rfl⟩ := exists_head_of_valueForm hcs
  refine ⟨c, more ++ rest, ?_, hc⟩
  rw [skipBlanks_eq_cons_iff hblank]
  exact ⟨w ++ w', hw.append hw', by simp⟩

theorem Starts.shape {s rest more : List Char} {t : Tree} {c : Char}
    (h : Starts ValueForm s t rest) (hs : skipBlanks s = c :: more) : shapeAt c = some t.shape := by
  obtain ⟨c', more', hs', hc⟩ := h.head
  rw [hs] at hs'
  rw [(List.cons.inj hs').1, hc]

theorem Starts.shape_eq {s rest rest' : List Char} {t t' : Tree} (h : Starts ValueForm s t rest)
    (h' : Starts ValueForm s t' rest') : t.shape = t'.shape := by
  obtain ⟨c, more, hs, hc⟩ := h.head
  exact Option.some.inj (hc.symm.trans (h'.shape hs))

theorem Tree.eq_null {t : Tree} (h : t.shape = .null) : t = .null := by
  cases t with
  | null => rfl
  | _ => cases h

theorem Tree.exists_text {t : Tree} (h : t.shape = .text) : ∃ s, t = .text s := by
  cases t with
  | text s => exact ⟨s, rfl⟩
  | _ => cases h

theorem Tree.exists_array {t : Tree} (h : t.shape = .array) : ∃ ts, t = .array ts := by
  cases t with
  | array ts => exact ⟨ts, rfl⟩
  | _ => cases h

theorem Tree.exists_object {t : Tree} (h : t.shape = .object) : ∃ ms, t = .object ms := by
  cases t with
  | object ms => exact ⟨ms, rfl⟩
  | _ => cases h

/-! ## One reading -/

theorem Starts.string_unique {s x x' rest rest' : List Char} (h : Starts StringForm s x rest)
    (h' : Starts StringForm s x' rest') : x = x' ∧ rest = rest' := by
  obtain ⟨s₁, hs, hs₁⟩ := starts_string_iff.mp h
  obtain ⟨s₂, hs', hs₂⟩ := starts_string_iff.mp h'
  rw [hs, List.cons.injEq] at hs'
  rw [← hs'.2, hs₁, Option.some.injEq, Prod.mk.injEq] at hs₂
  exact hs₂

theorem Starts.unique {s rest rest' : List Char} {t t' : Tree} (h : Starts ValueForm s t rest)
    (h' : Starts ValueForm s t' rest') (hflat : IsFlat t') : t = t' ∧ rest = rest' := by
  rcases hflat with rfl | ⟨x', rfl⟩
  · obtain rfl := Tree.eq_null (h.shape_eq h')
    rw [starts_null_iff] at h h'
    rw [h] at h'
    exact ⟨rfl, by simpa using h'⟩
  · obtain ⟨x, rfl⟩ := Tree.exists_text (h.shape_eq h')
    obtain ⟨rfl, hrest⟩ := (starts_text_iff.mp h).string_unique (starts_text_iff.mp h')
    exact ⟨rfl, hrest⟩

theorem Starts.member_unique {s rest rest' : List Char} {m m' : List Char × Tree}
    (h : Starts (MemberForm ValueForm) s m rest) (h' : Starts (MemberForm ValueForm) s m' rest')
    (hflat : IsFlat m'.2) : m = m' ∧ rest = rest' := by
  obtain ⟨s₁, s₂, hkey, hcolon, hvalue⟩ := starts_member_iff.mp h
  obtain ⟨s₁', s₂', hkey', hcolon', hvalue'⟩ := starts_member_iff.mp h'
  obtain ⟨hkeys, rfl⟩ := hkey.string_unique hkey'
  rw [hcolon, List.cons.injEq] at hcolon'
  obtain rfl := hcolon'.2
  obtain ⟨hvalues, hrest⟩ := hvalue.unique hvalue' hflat
  exact ⟨Prod.ext hkeys hvalues, hrest⟩

/-! ## No item begins with a closing sign -/

theorem Starts.ne_bracket {s rest more : List Char} {t : Tree} (h : Starts ValueForm s t rest) :
    skipBlanks s ≠ ']' :: more := by
  intro hs
  have hnone : shapeAt ']' = none := by decide
  rw [h.shape hs] at hnone
  cases hnone

theorem Starts.ne_brace {s rest more : List Char} {m : List Char × Tree}
    (h : Starts (MemberForm ValueForm) s m rest) : skipBlanks s ≠ '\x7d' :: more := by
  intro hs
  obtain ⟨s₁, s₂, hkey, -⟩ := starts_member_iff.mp h
  obtain ⟨s', hs', -⟩ := starts_string_iff.mp hkey
  rw [hs, List.cons.injEq] at hs'
  exact absurd hs'.1 (by decide)

section

variable {α : Type} {R : List Char → α → Prop} {stop : Char}

/-- Where an item may come there is no closing sign. -/
theorem Starts.ne_stop_of_lead (hcomma : ',' ≠ stop)
    (hitem : ∀ {s a rest more}, Starts R s a rest → skipBlanks s ≠ stop :: more)
    {first : Bool} {s s₁ rest more : List Char} {a : α} (ha : Starts R s₁ a rest)
    (hlead : afterLead? first s = some s₁) : skipBlanks s ≠ stop :: more := by
  intro hs
  cases first with
  | true =>
    obtain rfl := Option.some.inj hlead
    exact hitem ha hs
  | false =>
    rw [afterLead?_false_iff, hs, List.cons.injEq] at hlead
    exact hcomma hlead.1.symm

theorem Continues.eq_nil (hcomma : ',' ≠ stop)
    (hitem : ∀ {s a rest more}, Starts R s a rest → skipBlanks s ≠ stop :: more)
    {first : Bool} {s rest more : List Char} {as : List α} (h : Continues R stop first as s rest)
    (hs : skipBlanks s = stop :: more) : as = [] := by
  cases as with
  | nil => rfl
  | cons a as =>
    obtain ⟨s₁, s₂, hlead, ha, -⟩ := continues_cons_iff.mp h
    exact absurd hs (ha.ne_stop_of_lead hcomma hitem hlead)

/-- Items that cannot be mistaken for others are read one by one in one way. -/
theorem Continues.unique {Flat : α → Prop} (hstop : isBlank stop = false) (hcomma : ',' ≠ stop)
    (hitem : ∀ {s a rest more}, Starts R s a rest → skipBlanks s ≠ stop :: more)
    (hunique : ∀ {s a a' rest rest'}, Starts R s a rest → Starts R s a' rest' → Flat a' →
      a = a' ∧ rest = rest')
    {first : Bool} {s rest rest' : List Char} {as as' : List α}
    (h : Continues R stop first as s rest) (h' : Continues R stop first as' s rest')
    (hflat : ∀ a ∈ as', Flat a) : as = as' := by
  -- On the flat items: where they end the text has the closing sign, so the others end too.
  induction as' generalizing first s as with
  | nil => exact h.eq_nil hcomma hitem ((continues_nil_iff hstop).mp h')
  | cons a' as' ih =>
    cases as with
    | nil => exact (h'.eq_nil hcomma hitem ((continues_nil_iff hstop).mp h)).symm
    | cons a as =>
      obtain ⟨s₁, s₂, hs₁, ha, has⟩ := continues_cons_iff.mp h
      obtain ⟨s₁', s₂', hs₁', ha', has'⟩ := continues_cons_iff.mp h'
      obtain rfl := Option.some.inj (hs₁.symm.trans hs₁')
      obtain ⟨rfl, rfl⟩ := hunique ha ha' (hflat a' List.mem_cons_self)
      rw [ih has has' fun u hu => hflat u (List.mem_cons_of_mem a hu)]

end

/-! ## Documents -/

/-- A text that stands for a flat document stands for nothing else. -/
theorem Denotes.unique {s : List Char} {t t' : Tree} (h : Denotes s t) (h' : Denotes s t')
    (hflat : IsFlatDocument t') : t = t' := by
  have hshape : t.shape = t'.shape := by
    obtain ⟨front, cs, back, hfront, hcs, -, rfl⟩ := id h
    obtain ⟨front', cs', back', hfront', hcs', -, heq⟩ := id h'
    exact Starts.shape_eq ⟨front, cs, hfront, hcs, rfl⟩ ⟨front', cs', hfront', hcs', heq⟩
  rcases hflat with ⟨ts', rfl, hflat⟩ | ⟨ms', rfl, hflat⟩
  · obtain ⟨ts, rfl⟩ := Tree.exists_array hshape
    obtain ⟨inner, rest, hs, hts, -⟩ := denotes_array_iff.mp h
    obtain ⟨inner', rest', hs', hts', -⟩ := denotes_array_iff.mp h'
    rw [hs, List.cons.injEq] at hs'
    obtain rfl := hs'.2
    rw [hts.unique rfl (by decide) Starts.ne_bracket Starts.unique hts' hflat]
  · obtain ⟨ms, rfl⟩ := Tree.exists_object hshape
    obtain ⟨inner, rest, hs, hms, -⟩ := denotes_object_iff.mp h
    obtain ⟨inner', rest', hs', hms', -⟩ := denotes_object_iff.mp h'
    rw [hs, List.cons.injEq] at hs'
    obtain rfl := hs'.2
    rw [hms.unique rfl (by decide) Starts.ne_brace Starts.member_unique hms' hflat]

end OffchainSeal.Json
