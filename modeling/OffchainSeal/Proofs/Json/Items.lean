import OffchainSeal.Proofs.Json.Scan

/-!
# Reading items one by one

Arrays and objects as a reader meets them: from behind the opening sign, or from behind
an item, up to the closing sign.

* `continues_false_iff`, `continues_true_iff`: these are the items of the grammar.
* `denotes_array_iff`, `denotes_object_iff`: documents that are arrays or objects.
-/

namespace OffchainSeal.Json

section

variable {α : Type} (R : List Char → α → Prop) (stop : Char)

/-- What comes before an item: blanks before the first one, a comma before any other. -/
def LeadForm (first : Bool) (cs : List Char) : Prop :=
  if first then AreBlanks cs else SignForm ',' cs

/-- The text goes on with these items and the closing sign, and then `rest`. -/
def Continues : Bool → List α → List Char → List Char → Prop
  | _, [], s, rest => ∃ w, AreBlanks w ∧ s = w ++ stop :: rest
  | first, a :: as, s, rest =>
    ∃ lead cs s', LeadForm first lead ∧ R cs a ∧ Continues false as s' rest ∧ s = lead ++ cs ++ s'

/-- After blanks the text starts with an item, and then comes `rest`. -/
def Starts (s : List Char) (a : α) (rest : List Char) : Prop :=
  ∃ w cs, AreBlanks w ∧ R cs a ∧ s = w ++ cs ++ rest

/-- The text behind what has to come before an item. -/
def afterLead? (first : Bool) (s : List Char) : Option (List Char) :=
  if first then some s
  else
    match skipBlanks s with
    | ',' :: rest => some rest
    | _ => none

variable {R stop}

theorem afterLead?_false_iff {s rest : List Char} :
    afterLead? false s = some rest ↔ skipBlanks s = ',' :: rest := by
  unfold afterLead?
  constructor
  · intro h
    split at h
    · next hfirst => cases hfirst
    · split at h
      · next hs =>
        rw [hs, Option.some.inj h]
      · cases h
  · intro h
    rw [h]
    rfl

theorem continues_nil_iff (hstop : isBlank stop = false) {first : Bool} {s rest : List Char} :
    Continues R stop first [] s rest ↔ skipBlanks s = stop :: rest :=
  (skipBlanks_eq_cons_iff hstop).symm

theorem continues_cons_iff {first : Bool} {a : α} {as : List α} {s rest : List Char} :
    Continues R stop first (a :: as) s rest ↔ ∃ s₁ s₂, afterLead? first s = some s₁ ∧
      Starts R s₁ a s₂ ∧ Continues R stop false as s₂ rest := by
  cases first with
  | true =>
    constructor
    · rintro ⟨w, cs, s₂, hw, hcs, hs₂, rfl⟩
      exact ⟨_, s₂, rfl, ⟨w, cs, hw, hcs, rfl⟩, hs₂⟩
    · rintro ⟨s₁, s₂, hs₁, ⟨w, cs, hw, hcs, rfl⟩, hs₂⟩
      exact ⟨w, cs, s₂, hw, hcs, hs₂, Option.some.inj hs₁⟩
  | false =>
    constructor
    · rintro ⟨_, cs, s₂, ⟨w, w', hw, hw', rfl⟩, hcs, hs₂, rfl⟩
      refine ⟨w' ++ cs ++ s₂, s₂, ?_, ⟨w', cs, hw', hcs, rfl⟩, hs₂⟩
      rw [afterLead?_false_iff, skipBlanks_eq_cons_iff (by decide)]
      exact ⟨w, hw, by simp⟩
    · rintro ⟨s₁, s₂, hs₁, ⟨w', cs, hw', hcs, rfl⟩, hs₂⟩
      rw [afterLead?_false_iff, skipBlanks_eq_cons_iff (by decide)] at hs₁
      obtain ⟨w, hw, rfl⟩ := hs₁
      exact ⟨w ++ ',' :: w', cs, s₂, ⟨w, w', hw, hw', rfl⟩, hcs, hs₂, by simp⟩

theorem continues_false_iff {as : List α} {s rest : List Char} :
    Continues R stop false as s rest ↔
      ∃ cs w, FollowingForm R cs as ∧ AreBlanks w ∧ s = cs ++ w ++ stop :: rest := by
  induction as generalizing s with
  | nil =>
    constructor
    · rintro ⟨w, hw, rfl⟩
      exact ⟨[], w, .nil, hw, rfl⟩
    · rintro ⟨cs, w, hcs, hw, rfl⟩
      cases hcs
      exact ⟨w, hw, rfl⟩
  | cons a as ih =>
    constructor
    · rintro ⟨comma, cs, s', hcomma, hcs, hs', rfl⟩
      obtain ⟨more, w, hmore, hw, rfl⟩ := ih.mp hs'
      exact ⟨comma ++ cs ++ more, w, .cons hcomma hcs hmore, hw, by simp⟩
    · rintro ⟨cs, w, hcs, hw, rfl⟩
      cases hcs with
      | @cons comma cs rest' _ _ hcomma hcs hrest =>
        exact ⟨comma, cs, _, hcomma, hcs, ih.mpr ⟨rest', w, hrest, hw, rfl⟩, by simp⟩

theorem continues_true_iff {as : List α} {s rest : List Char} :
    Continues R stop true as s rest ↔ ∃ front cs w, AreBlanks front ∧ SeparatedForm R cs as ∧
      AreBlanks w ∧ s = front ++ cs ++ w ++ stop :: rest := by
  cases as with
  | nil =>
    constructor
    · rintro ⟨w, hw, rfl⟩
      exact ⟨[], [], w, areBlanks_nil, .nil, hw, rfl⟩
    · rintro ⟨front, cs, w, hfront, hcs, hw, rfl⟩
      cases hcs
      exact ⟨front ++ w, hfront.append hw, by simp⟩
  | cons a as =>
    constructor
    · rintro ⟨front, cs, s', hfront, hcs, hs', rfl⟩
      obtain ⟨more, w, hmore, hw, rfl⟩ := continues_false_iff.mp hs'
      exact ⟨front, cs ++ more, w, hfront, .cons hcs hmore, hw, by simp⟩
    · rintro ⟨front, cs, w, hfront, hcs, hw, rfl⟩
      cases hcs with
      | @cons cs rest' _ _ hcs hrest =>
        exact ⟨front, cs, _, hfront, hcs, continues_false_iff.mpr ⟨rest', w, hrest, hw, rfl⟩,
          by simp⟩

/-- Between an opening and a closing sign, with blanks on both sides, are the items that a
reader meets behind the opening sign. -/
theorem enclosed_iff {start : Char} (hstart : isBlank start = false) {as : List α}
    {s : List Char} :
    (∃ front opening cs closing back, AreBlanks front ∧ SignForm start opening ∧
        SeparatedForm R cs as ∧ SignForm stop closing ∧ AreBlanks back ∧
          s = front ++ (opening ++ cs ++ closing) ++ back) ↔
      ∃ inner rest, skipBlanks s = start :: inner ∧ Continues R stop true as inner rest ∧
        AreBlanks rest := by
  constructor
  · rintro ⟨front, opening, cs, closing, back, hfront, ⟨w₁, w₂, hw₁, hw₂, rfl⟩, hcs,
      ⟨w₃, w₄, hw₃, hw₄, rfl⟩, hback, rfl⟩
    refine ⟨w₂ ++ cs ++ w₃ ++ stop :: (w₄ ++ back), w₄ ++ back, ?_, ?_, hw₄.append hback⟩
    · rw [skipBlanks_eq_cons_iff hstart]
      exact ⟨front ++ w₁, hfront.append hw₁, by simp⟩
    · exact continues_true_iff.mpr ⟨w₂, cs, w₃, hw₂, hcs, hw₃, rfl⟩
  · rintro ⟨inner, rest, hs, hinner, hrest⟩
    obtain ⟨w₁, hw₁, rfl⟩ := (skipBlanks_eq_cons_iff hstart).mp hs
    obtain ⟨w₂, cs, w₃, hw₂, hcs, hw₃, rfl⟩ := continues_true_iff.mp hinner
    refine ⟨[], w₁ ++ start :: w₂, cs, w₃ ++ stop :: [], rest, areBlanks_nil,
      ⟨w₁, w₂, hw₁, hw₂, rfl⟩, hcs, ⟨w₃, [], hw₃, areBlanks_nil, rfl⟩, hrest, by simp⟩

end

/-! ## Documents -/

theorem denotes_array_iff {s : List Char} {ts : List Tree} :
    Denotes s (.array ts) ↔ ∃ inner rest, skipBlanks s = '[' :: inner ∧
      Continues ValueForm ']' true ts inner rest ∧ AreBlanks rest := by
  rw [← enclosed_iff (by decide)]
  constructor
  · rintro ⟨front, _, back, hfront, hcs, hback, rfl⟩
    cases hcs with
    | array hstart hcs hstop =>
      exact ⟨front, _, _, _, back, hfront, hstart, hcs, hstop, hback, rfl⟩
  · rintro ⟨front, _, _, _, back, hfront, hstart, hcs, hstop, hback, rfl⟩
    exact ⟨front, _, back, hfront, .array hstart hcs hstop, hback, rfl⟩

theorem denotes_object_iff {s : List Char} {ms : List (List Char × Tree)} :
    Denotes s (.object ms) ↔ ∃ inner rest, skipBlanks s = '\x7b' :: inner ∧
      Continues (MemberForm ValueForm) '\x7d' true ms inner rest ∧ AreBlanks rest := by
  rw [← enclosed_iff (by decide)]
  constructor
  · rintro ⟨front, _, back, hfront, hcs, hback, rfl⟩
    cases hcs with
    | object hstart hcs hstop =>
      exact ⟨front, _, _, _, back, hfront, hstart, hcs, hstop, hback, rfl⟩
  · rintro ⟨front, _, _, _, back, hfront, hstart, hcs, hstop, hback, rfl⟩
    exact ⟨front, _, back, hfront, .object hstart hcs hstop, hback, rfl⟩

/-! ## Values and members -/

theorem starts_string_iff {s x rest : List Char} :
    Starts StringForm s x rest ↔
      ∃ s', skipBlanks s = '"' :: s' ∧ string? s' = some (x, rest) := by
  simp only [string?_iff_stringForm]
  constructor
  · rintro ⟨w, cs, hw, hcs, rfl⟩
    obtain ⟨inner, -, heq⟩ := id hcs
    refine ⟨inner ++ '"' :: rest, ?_, cs, hcs, by simp [heq]⟩
    rw [skipBlanks_eq_cons_iff (by decide)]
    exact ⟨w, hw, by simp [heq]⟩
  · rintro ⟨s', hs, cs, hcs, hs'⟩
    obtain ⟨w, hw, rfl⟩ := (skipBlanks_eq_cons_iff (by decide)).mp hs
    exact ⟨w, cs, hw, hcs, by rw [hs', List.append_assoc]⟩

theorem starts_text_iff {s x rest : List Char} :
    Starts ValueForm s (.text x) rest ↔ Starts StringForm s x rest := by
  refine exists_congr fun w => exists_congr fun cs => ?_
  refine and_congr_right fun _ => and_congr_left fun _ => ?_
  constructor
  · intro h
    cases h with
    | text hcs => exact hcs
  · exact .text

theorem starts_null_iff {s rest : List Char} :
    Starts ValueForm s .null rest ↔ skipBlanks s = 'n' :: 'u' :: 'l' :: 'l' :: rest := by
  rw [skipBlanks_eq_cons_iff (by decide)]
  constructor
  · rintro ⟨w, cs, hw, ⟨_⟩, rfl⟩
    exact ⟨w, hw, by simp⟩
  · rintro ⟨w, hw, rfl⟩
    exact ⟨w, _, hw, .null, by simp⟩

theorem starts_member_iff {s key rest : List Char} {t : Tree} :
    Starts (MemberForm ValueForm) s (key, t) rest ↔
      ∃ s₁ s₂, Starts StringForm s key s₁ ∧ skipBlanks s₁ = ':' :: s₂ ∧
        Starts ValueForm s₂ t rest := by
  constructor
  · rintro ⟨w, _, hw, @⟨name, _, cs, _, _, hname, ⟨w₁, w₂, hw₁, hw₂, rfl⟩, hcs⟩, rfl⟩
    refine ⟨w₁ ++ ':' :: w₂ ++ cs ++ rest, w₂ ++ cs ++ rest, ⟨w, name, hw, hname, by simp⟩, ?_,
      w₂, cs, hw₂, hcs, rfl⟩
    rw [skipBlanks_eq_cons_iff (by decide)]
    exact ⟨w₁, hw₁, by simp⟩
  · rintro ⟨s₁, s₂, ⟨w, name, hw, hname, rfl⟩, hs₁, ⟨w₂, cs, hw₂, hcs, rfl⟩⟩
    obtain ⟨w₁, hw₁, rfl⟩ := (skipBlanks_eq_cons_iff (by decide)).mp hs₁
    exact ⟨w, _, hw, .mk hname ⟨w₁, w₂, hw₁, hw₂, rfl⟩ hcs, by simp⟩

end OffchainSeal.Json
