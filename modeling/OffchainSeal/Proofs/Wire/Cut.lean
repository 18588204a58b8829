import OffchainSeal.Proofs.Wire.Text

/-!
# Bytes cut short

A reader needs all the bytes it takes: without the last of them it fails because there
is not enough, wherever the bytes are cut, and it looks at nothing behind them.

* `Get.NeedsAll`: this property of a reader, with one lemma for each reader.
* `Get.NeedsAll.ofBytes_cut`, `Get.NeedsAll.ofBytes_append`: a whole byte string that is
  cut short or continued.
-/

namespace OffchainSeal.Wire

/-- The fault says that there are not enough bytes. -/
def Fault.IsShortage : Fault → Prop
  | .endOfData _ => True
  | .lengthExceeds _ _ _ => True
  | _ => False

variable {α β : Type}

/-- The reader fails on the unread bytes because there are not enough. -/
def Get.FallsShort (g : Get α) (bs : Bytes) : Prop :=
  ∃ e : Fault, e.IsShortage ∧ (g.result bs).1 = .error e

/-- What the reader takes it takes in front of any other bytes too, and it falls short of
every proper prefix. -/
def Get.NeedsAll (g : Get α) : Prop :=
  ∀ bs a rest, g.Takes bs a rest → ∃ used, bs = used ++ rest ∧
    (∀ rest', g.Takes (used ++ rest') a rest') ∧
    ∀ cut missing, used = cut ++ missing → missing ≠ [] → g.FallsShort cut

/-! ## Steps -/

theorem Get.FallsShort.bind_left {g : Get α} {bs : Bytes} (h : g.FallsShort bs)
    (f : α → Get β) : (g >>= f).FallsShort bs := by
  obtain ⟨e, he, h⟩ := h
  refine ⟨e, he, ?_⟩
  rw [Get.result_bind]
  rcases hr : g.result bs with ⟨_ | a, mid⟩
  · rw [hr] at h
    cases h
    rfl
  · rw [hr] at h
    cases h

theorem Get.Takes.fallsShort_bind {g : Get α} {f : α → Get β} {a : α} {bs mid : Bytes}
    (hg : g.Takes bs a mid) (hf : (f a).FallsShort mid) : (g >>= f).FallsShort bs := by
  obtain ⟨e, he, hf⟩ := hf
  refine ⟨e, he, ?_⟩
  rw [Get.result_bind, hg]
  exact hf

theorem needsAll_pure (a : α) : (pure a : Get α).NeedsAll := by
  intro bs b rest h
  obtain ⟨rfl, rfl⟩ := takes_pure.mp h
  refine ⟨[], rfl, fun rest' => takes_pure.mpr ⟨rfl, rfl⟩, fun cut missing e hne => ?_⟩
  exact absurd (List.append_eq_nil_iff.mp e.symm).2 hne

theorem needsAll_throw (e : Fault) : (throw e : Get α).NeedsAll := by
  intro bs a rest h
  exact (takes_throw.mp h).elim

theorem needsAll_bind {g : Get α} {f : α → Get β} (hg : g.NeedsAll) (hf : ∀ a, (f a).NeedsAll) :
    (g >>= f).NeedsAll := by
  intro bs b rest h
  obtain ⟨a, mid, htake, hnext⟩ := takes_bind.mp h
  obtain ⟨used₁, rfl, hbefore, hcut₁⟩ := hg _ _ _ htake
  obtain ⟨used₂, rfl, hbehind, hcut₂⟩ := hf a _ _ _ hnext
  refine ⟨used₁ ++ used₂, by rw [List.append_assoc], fun rest' => ?_, fun cut missing e hne => ?_⟩
  · rw [List.append_assoc]
    exact takes_bind.mpr ⟨a, used₂ ++ rest', hbefore _, hbehind rest'⟩
  · -- the cut is behind the bytes of the first step, or it hits them
    rcases List.append_eq_append_iff.mp e with ⟨more, rfl, h₂⟩ | ⟨missing₁, h₁, rfl⟩
    · exact (hbefore more).fallsShort_bind (hcut₂ more missing h₂ hne)
    · by_cases hnil : missing₁ = []
      · subst hnil
        rw [List.append_nil] at h₁
        subst h₁
        have htaken := hbefore []
        rw [List.append_nil] at htaken
        exact htaken.fallsShort_bind (hcut₂ [] used₂ rfl hne)
      · exact (hcut₁ cut missing₁ h₁ hnil).bind_left f

/-! ## Bytes, numbers and texts -/

theorem needsAll_getByte (what : String) : (getByte what).NeedsAll := by
  intro bs b rest h
  have hbs := takes_getByte.mp h
  refine ⟨[b], hbs, fun rest' => takes_getByte.mpr rfl, fun cut missing e hne => ?_⟩
  have hlen := congrArg List.length e
  have hpos := List.length_pos_of_ne_nil hne
  rw [List.length_append, List.length_singleton] at hlen
  have hcut : cut = [] := List.eq_nil_of_length_eq_zero (by omega)
  exact ⟨.endOfData what, trivial, by rw [hcut]; rfl⟩

theorem needsAll_getVaruintFrom (left weight value : ℕ) :
    (getVaruintFrom left weight value).NeedsAll := by
  induction left generalizing weight value with
  | zero => exact needsAll_throw _
  | succ left ih =>
    rw [getVaruintFrom]
    refine needsAll_bind (needsAll_getByte _) fun b => ?_
    dsimp only
    split_ifs
    · exact needsAll_pure _
    · exact needsAll_throw _
    · exact ih _ _

theorem needsAll_getVaruint : getVaruint.NeedsAll :=
  needsAll_getVaruintFrom 5 1 0

theorem needsAll_getText (field : String) : (getText field).NeedsAll := by
  unfold getText
  refine needsAll_bind needsAll_getVaruint fun v => ?_
  -- behind its length the text is that many bytes; only their number is checked before
  intro bs s rest h
  rw [takes_get_bind] at h
  split_ifs at h with hlen
  · exact (takes_throw.mp h).elim
  · split at h
    · exact (takes_throw.mp h).elim
    · next t hd =>
      rw [takes_set_bind, takes_pure] at h
      obtain ⟨rfl, rfl⟩ := h
      have hused : (bs.take v.toNat).length = v.toNat := by
        rw [List.length_take]
        omega
      refine ⟨bs.take v.toNat, (List.take_append_drop _ _).symm, fun rest' => ?_, ?_⟩
      · rw [takes_get_bind, if_neg (by rw [List.length_append]; omega),
          List.take_left' hused, List.drop_left' hused, hd]
        exact takes_set_bind.mpr (takes_pure.mpr ⟨rfl, rfl⟩)
      · intro cut missing e hne
        have hpos := List.length_pos_of_ne_nil hne
        have hshort : cut.length < v.toNat := by
          rw [e, List.length_append] at hused
          omega
        refine ⟨.lengthExceeds field v.toNat cut.length, trivial, ?_⟩
        rw [Get.result_bind, Get.result_get]
        dsimp only
        rw [if_pos hshort, Get.result_throw]

theorem needsAll_getOptionalText (field : String) : (getOptionalText field).NeedsAll := by
  unfold getOptionalText
  refine needsAll_bind (needsAll_getByte _) fun flag => ?_
  split_ifs
  · exact needsAll_pure _
  · exact needsAll_bind (needsAll_getText field) fun s => needsAll_pure _
  · exact needsAll_throw _

/-! ## Whole byte strings -/

/-- A byte string from which a reader makes a value cannot be cut short. -/
theorem Get.NeedsAll.ofBytes_cut {g : Get α} {a : α} {cut missing : Bytes} (hg : g.NeedsAll)
    (h : g.ofBytes (cut ++ missing) = .ok a) (hne : missing ≠ []) :
    ∃ e : Fault, e.IsShortage ∧ g.ofBytes cut = .error e := by
  obtain ⟨used, hused, -, hcut⟩ := hg _ _ _ (Get.ofBytes_eq_ok_iff.mp h)
  rw [List.append_nil] at hused
  exact (hcut cut missing hused.symm hne).bind_left _

theorem result_finish_of_ne_nil {rest : Bytes} (h : rest ≠ []) :
    finish.result rest = (.error (.trailing rest.length), rest) := by
  cases rest with
  | nil => exact absurd rfl h
  | cons b tl => rfl

/-- Nor can it be continued: exactly the bytes behind it are too many. -/
theorem Get.NeedsAll.ofBytes_append {g : Get α} {a : α} {bs extra : Bytes} (hg : g.NeedsAll)
    (h : g.ofBytes bs = .ok a) (hne : extra ≠ []) :
    g.ofBytes (bs ++ extra) = .error (.trailing extra.length) := by
  obtain ⟨used, hused, hbefore, -⟩ := hg _ _ _ (Get.ofBytes_eq_ok_iff.mp h)
  rw [List.append_nil] at hused
  have htake := hbefore extra
  rw [← hused] at htake
  change ((g >>= fun a => finish >>= fun _ => pure a : Get α).result (bs ++ extra)).1 = _
  rw [Get.result_bind, htake]
  dsimp only
  rw [Get.result_bind, result_finish_of_ne_nil hne]

end OffchainSeal.Wire
