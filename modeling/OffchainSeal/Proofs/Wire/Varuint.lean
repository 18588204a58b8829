import OffchainSeal.Proofs.Wire.Reader
import OffchainSeal.Wire.Writer

/-!
# Numbers in seven-bit groups

A number is read from any row of at most five groups whose value fits into 32
bits; a row may end in groups that are zero. The writer gives the one row
without such an end.

* `takes_getVaruint`: what the reader accepts.
* `groups_varuint`, `isShortest_varuint`: what the writer gives.
* `eq_varuint_iff`: a row of groups is the written one exactly if it is shortest.
-/

namespace OffchainSeal.Wire

/-! ## Rows of groups -/

/-- The bytes are seven-bit groups of the number, low groups first; all bytes but
the last have the high bit set. -/
inductive Groups : ℕ → Bytes → Prop
  | last {b : UInt8} : b.toNat < 128 → Groups b.toNat [b]
  | more {b : UInt8} {n : ℕ} {bs : Bytes} :
      128 ≤ b.toNat → Groups n bs → Groups (b.toNat % 128 + 128 * n) (b :: bs)

/-- The bytes are a number of 32 bits in at most five groups. -/
structure IsVaruint (n : ℕ) (bs : Bytes) : Prop where
  groups : Groups n bs
  length_le : bs.length ≤ 5
  lt : n < wordLimit

/-- No group could be left out: the last one is not zero, unless it is alone. -/
def IsShortest (bs : Bytes) : Prop :=
  bs.length = 1 ∨ bs.getLast? ≠ some 0

instance (bs : Bytes) : Decidable (IsShortest bs) :=
  inferInstanceAs (Decidable (_ ∨ _))

theorem Groups.ne_nil {n : ℕ} {bs : Bytes} (h : Groups n bs) : bs ≠ [] := by
  cases h <;> simp

/-- A row of groups ends where it says, so it is found again in front of anything. -/
theorem Groups.append_inj {n n' : ℕ} {bs bs' rest rest' : Bytes} (h : Groups n bs)
    (h' : Groups n' bs') (e : bs ++ rest = bs' ++ rest') : n = n' ∧ bs = bs' ∧ rest = rest' := by
  induction h generalizing n' bs' with
  | last hb =>
    cases h' with
    | last => cases e; simp
    | more hb' => cases e; omega
  | more hb _ ih =>
    cases h' with
    | last hb' => cases e; omega
    | more _ h' =>
      obtain ⟨rfl, e'⟩ := List.cons.inj e
      obtain ⟨rfl, rfl, rfl⟩ := ih h' e'
      simp

/-! ## Reading -/

/-- One byte either ends the number or is a group before others. -/
theorem takes_getVaruintFrom_succ {left weight value : ℕ} {v : UInt32} {bs rest : Bytes} :
    (getVaruintFrom (left + 1) weight value).Takes bs v rest ↔
      ∃ b mid, bs = b :: mid ∧
        (b.toNat < 128 ∧ value + weight * b.toNat = v.toNat ∧ mid = rest ∨
          128 ≤ b.toNat ∧ (getVaruintFrom left (128 * weight)
            (value + weight * (b.toNat % 128))).Takes mid v rest) := by
  rw [getVaruintFrom]
  simp only [takes_bind, takes_getByte]
  refine exists_congr fun b => exists_congr fun mid => and_congr_right fun _ => ?_
  by_cases hb : b.toNat < 128
  · rw [if_pos (UInt8.lt_iff_toNat_lt.mpr hb), Nat.mod_eq_of_lt hb]
    by_cases hlt : value + weight * b.toNat < wordLimit
    · have hword : (UInt32.ofNat (value + weight * b.toNat)).toNat = value + weight * b.toNat :=
        UInt32.toNat_ofNat_of_lt' hlt
      rw [if_pos hlt, takes_pure, ← UInt32.toNat_inj, hword]
      simp [hb]
    · have hv : value + weight * b.toNat ≠ v.toNat := fun e => hlt (e ▸ v.toNat_lt)
      rw [if_neg hlt, takes_throw]
      simp [hb, hv]
  · rw [if_neg (fun h => hb (UInt8.lt_iff_toNat_lt.mp h))]
    simp [hb, Nat.le_of_not_lt hb]

theorem takes_getVaruintFrom {left weight value : ℕ} {v : UInt32} {bs rest : Bytes} :
    (getVaruintFrom left weight value).Takes bs v rest ↔
      ∃ n ps, bs = ps ++ rest ∧ Groups n ps ∧ ps.length ≤ left ∧ value + weight * n = v.toNat := by
  -- `value` is what the groups before make, `weight` what the next group counts
  induction left generalizing weight value bs with
  | zero =>
    rw [getVaruintFrom, takes_throw, false_iff]
    rintro ⟨n, ps, -, hg, hl, -⟩
    exact hg.ne_nil (List.eq_nil_of_length_eq_zero (Nat.le_zero.mp hl))
  | succ left ih =>
    have hvalue : ∀ k n : ℕ,
        value + weight * k + 128 * weight * n = value + weight * (k + 128 * n) := by
      intro k n
      ring
    rw [takes_getVaruintFrom_succ]
    constructor
    · rintro ⟨b, mid, rfl, ⟨hb, hv, rfl⟩ | ⟨hb, h⟩⟩
      · exact ⟨b.toNat, [b], rfl, .last hb, by simp, hv⟩
      · obtain ⟨n, ps, rfl, hg, hl, hv⟩ := ih.mp h
        rw [hvalue] at hv
        exact ⟨_, b :: ps, rfl, .more hb hg, Nat.succ_le_succ hl, hv⟩
    · rintro ⟨n, ps, rfl, hg, hl, hv⟩
      cases hg with
      | @last b hb => exact ⟨b, rest, rfl, .inl ⟨hb, hv, rfl⟩⟩
      | @more b n ps hb hg =>
        rw [← hvalue] at hv
        exact ⟨b, ps ++ rest, rfl, .inr ⟨hb, ih.mpr
          ⟨n, ps, rfl, hg, Nat.le_of_succ_le_succ hl, hv⟩⟩⟩

/-- The reader takes exactly the rows of at most five groups that fit into 32 bits. -/
theorem takes_getVaruint {v : UInt32} {bs rest : Bytes} :
    getVaruint.Takes bs v rest ↔ ∃ ps, bs = ps ++ rest ∧ IsVaruint v.toNat ps := by
  unfold getVaruint
  rw [takes_getVaruintFrom]
  constructor
  · rintro ⟨n, ps, rfl, hg, hl, hv⟩
    rw [Nat.zero_add, Nat.one_mul] at hv
    subst hv
    exact ⟨ps, rfl, hg, hl, v.toNat_lt⟩
  · rintro ⟨ps, rfl, hg, hl, -⟩
    exact ⟨v.toNat, ps, rfl, hg, hl, by rw [Nat.zero_add, Nat.one_mul]⟩

/-! ## Writing -/

theorem groups_varuint (n : ℕ) : Groups n (varuint n) := by
  induction n using Nat.strong_induction_on with
  | _ n ih =>
    rw [varuint]
    split_ifs with h
    · have hb : (UInt8.ofNat n).toNat = n := Utf8.toNat_ofNat_of_lt (by omega)
      have := Groups.last (b := UInt8.ofNat n) (by rw [hb]; exact h)
      rwa [hb] at this
    · have hb : (UInt8.ofNat (128 + n % 128)).toNat = 128 + n % 128 :=
        Utf8.toNat_ofNat_of_lt (by omega)
      have := Groups.more (b := UInt8.ofNat (128 + n % 128)) (by omega) (ih (n / 128) (by omega))
      rw [hb] at this
      convert this using 1
      omega

theorem length_varuint_le {n k : ℕ} (h : n < 128 ^ (k + 1)) : (varuint n).length ≤ k + 1 := by
  induction k generalizing n with
  | zero =>
    rw [varuint, if_pos (by simpa using h)]
    rfl
  | succ k ih =>
    rw [varuint]
    split_ifs
    · simp
    · rw [List.length_cons]
      exact Nat.succ_le_succ (ih (by rw [Nat.div_lt_iff_lt_mul (by norm_num), ← pow_succ]; exact h))

/-- The written form of a number of 32 bits is read as that number. -/
theorem isVaruint_varuint {n : ℕ} (h : n < wordLimit) : IsVaruint n (varuint n) where
  groups := groups_varuint n
  length_le := length_varuint_le (k := 4) (lt_trans h (by unfold wordLimit; norm_num))
  lt := h

/-! ## Shortest rows -/

theorem Groups.getLast?_of_zero {bs : Bytes} (h : Groups 0 bs) : bs.getLast? = some 0 := by
  generalize hn : 0 = n at h
  induction h with
  | @last b hb => rw [UInt8.toNat_inj.mp (hn.symm.trans UInt8.toNat_zero.symm)]; rfl
  | @more b n bs _ hg ih =>
    rw [List.getLast?_cons, ih (by omega)]
    rfl

theorem Groups.isShortest_cons_iff {n : ℕ} {b : UInt8} {bs : Bytes} (h : Groups n bs)
    (hn : n ≠ 0) : IsShortest (b :: bs) ↔ IsShortest bs := by
  have hlast : (b :: bs).getLast? = bs.getLast? := by
    cases h <;> rfl
  have hlen : bs.length ≠ 0 := fun e => h.ne_nil (List.eq_nil_of_length_eq_zero e)
  unfold IsShortest
  rw [hlast, List.length_cons]
  constructor
  · rintro (h₁ | h₁)
    · omega
    · exact .inr h₁
  · rintro (h₁ | h₁)
    · right
      cases h with
      | @last c hc =>
        intro e
        cases e
        exact hn rfl
      | more hc hg => cases hg <;> simp at h₁
    · exact .inr h₁

/-- A row of groups is the written one exactly if no group could be left out. -/
theorem Groups.isShortest_iff {n : ℕ} {bs : Bytes} (h : Groups n bs) :
    IsShortest bs ↔ bs = varuint n := by
  induction h with
  | @last b hb =>
    rw [varuint, if_pos hb, UInt8.ofNat_toNat]
    simp [IsShortest]
  | @more b n bs hb hg ih =>
    by_cases hn : n = 0
    · subst hn
      have hlast := hg.getLast?_of_zero
      have hlen : bs.length ≠ 0 := fun e => hg.ne_nil (List.eq_nil_of_length_eq_zero e)
      rw [varuint, if_pos (by omega)]
      simp only [IsShortest, List.getLast?_cons, hlast]
      simp [hlen, ← List.length_eq_zero_iff]
    · have e₁ : (b.toNat % 128 + 128 * n) / 128 = n := by omega
      have e₂ : b = UInt8.ofNat (128 + (b.toNat % 128 + 128 * n) % 128) :=
        Utf8.eq_ofNat_of_toNat_eq (by have := b.toNat_lt; omega)
      have e₃ : varuint (b.toNat % 128 + 128 * n) = b :: varuint n := by
        rw [varuint, if_neg (by omega), e₁, ← e₂]
      rw [hg.isShortest_cons_iff hn, ih, e₃]
      simp

theorem isShortest_varuint (n : ℕ) : IsShortest (varuint n) :=
  (groups_varuint n).isShortest_iff.mpr rfl

end OffchainSeal.Wire
