import OffchainSeal.Proofs.Wire.Text

/-!
# Where readers stop

A reader that fails keeps what it has taken by then. For each reader this says with which
fault it stops, which bytes it has gone through, and which it leaves: a number stops behind its
last byte or where the bytes end, a text where its length does or behind that, and an optional
text at its flag or where its text does. These are all the cases, as each lemma is an
equivalence.

* `stops_getVaruint`, `stops_getText`, `stops_getOptionalText`: what the readers reject.
* `Groups.high_dropLast`: all bytes of a number but the last announce another one.
-/

namespace OffchainSeal.Wire

variable {α β : Type}

/-- The reader fails on the unread bytes `bs` with `e` and leaves `rest`. -/
def Get.Stops (g : Get α) (bs : Bytes) (e : Fault) (rest : Bytes) : Prop :=
  g.result bs = (.error e, rest)

/-! ## Steps -/

theorem stops_pure {a : α} {bs rest : Bytes} {e : Fault} :
    (pure a : Get α).Stops bs e rest ↔ False := by
  simp [Get.Stops, Get.result_pure]

theorem stops_throw {e e' : Fault} {bs rest : Bytes} :
    (throw e : Get α).Stops bs e' rest ↔ e = e' ∧ bs = rest := by
  simp [Get.Stops, Get.result_throw]

/-- Two steps stop at the first one, or at the second behind what the first has taken. -/
theorem stops_bind {g : Get α} {f : α → Get β} {bs rest : Bytes} {e : Fault} :
    (g >>= f).Stops bs e rest ↔
      g.Stops bs e rest ∨ ∃ a mid, g.Takes bs a mid ∧ (f a).Stops mid e rest := by
  unfold Get.Stops Get.Takes
  rw [Get.result_bind]
  rcases g.result bs with ⟨_ | a, mid⟩ <;> simp

/-- What is made of the value that a reader takes does not matter to where it stops. -/
theorem stops_bind_pure {g : Get α} {f : α → β} {bs rest : Bytes} {e : Fault} :
    (g >>= fun a => pure (f a) : Get β).Stops bs e rest ↔ g.Stops bs e rest := by
  simp only [stops_bind, stops_pure, and_false, exists_false, or_false]

theorem stops_get_bind {f : Bytes → Get β} {bs rest : Bytes} {e : Fault} :
    (get >>= f : Get β).Stops bs e rest ↔ (f bs).Stops bs e rest := by
  unfold Get.Stops
  rw [Get.result_bind, Get.result_get]

theorem stops_set_bind {next : Bytes} {f : Unit → Get β} {bs rest : Bytes} {e : Fault} :
    (set next >>= f : Get β).Stops bs e rest ↔ (f ()).Stops next e rest := by
  unfold Get.Stops
  rw [Get.result_bind, Get.result_set]

theorem stops_getByte {what : String} {bs rest : Bytes} {e : Fault} :
    (getByte what).Stops bs e rest ↔ bs = [] ∧ rest = [] ∧ e = .endOfData what := by
  unfold getByte
  rw [stops_get_bind]
  cases bs with
  | nil => simp [stops_throw, eq_comm, and_comm]
  | cons b tl =>
    rw [stops_set_bind, stops_pure]
    simp

/-! ## Numbers -/

/-- Each of the bytes announces another one. -/
def AllHigh (bs : Bytes) : Prop :=
  ∀ b ∈ bs, 128 ≤ b.toNat

/-- How the reading of a number ends without one: the fault, the bytes gone through, and those
that are left. At most `left` bytes may be taken; those before make `value`, and the next one
counts `weight`. -/
inductive NumberStops (left weight value : ℕ) : Fault → Bytes → Bytes → Prop
  /-- The bytes end before the number does. -/
  | ended {used : Bytes} : AllHigh used → used.length < left →
      NumberStops left weight value (.endOfData "varuint32") used []
  /-- The number is complete and does not fit into 32 bits. -/
  | overflow {n : ℕ} {used rest : Bytes} : Groups n used → used.length ≤ left →
      wordLimit ≤ value + weight * n → NumberStops left weight value .varuintOverflow used rest
  /-- The number goes on behind the last byte that may be taken. -/
  | tooLong {used rest : Bytes} : AllHigh used → used.length = left →
      NumberStops left weight value .varuintTooLong used rest

theorem allHigh_nil : AllHigh [] := List.forall_mem_nil _

theorem allHigh_cons_iff {b : UInt8} {bs : Bytes} :
    AllHigh (b :: bs) ↔ 128 ≤ b.toNat ∧ AllHigh bs :=
  List.forall_mem_cons

/-- All bytes of a number but the last announce another one. -/
theorem Groups.high_dropLast {n : ℕ} {bs : Bytes} (h : Groups n bs) :
    AllHigh bs.dropLast := by
  induction h with
  | last hb => exact allHigh_nil
  | @more b n bs hb hg ih =>
    rw [List.dropLast_cons_of_ne_nil hg.ne_nil]
    exact allHigh_cons_iff.mpr ⟨hb, ih⟩

/-- One byte less may be taken, and what it counts is in the value. -/
theorem numberStops_cons_iff {left weight value : ℕ} {b : UInt8} {used rest : Bytes} {e : Fault}
    (hb : 128 ≤ b.toNat) :
    NumberStops (left + 1) weight value e (b :: used) rest ↔
      NumberStops left (128 * weight) (value + weight * (b.toNat % 128)) e used rest := by
  have hvalue : ∀ n : ℕ, value + weight * (b.toNat % 128) + 128 * weight * n =
      value + weight * (b.toNat % 128 + 128 * n) := by
    intro n
    ring
  constructor
  · intro h
    cases h with
    | ended hhigh hlen =>
      exact .ended (allHigh_cons_iff.mp hhigh).2 (Nat.lt_of_succ_lt_succ hlen)
    | overflow hg hlen hlimit =>
      cases hg with
      | last hb' => omega
      | more _ hg =>
        rw [← hvalue] at hlimit
        exact .overflow hg (Nat.le_of_succ_le_succ hlen) hlimit
    | tooLong hhigh hlen =>
      exact .tooLong (allHigh_cons_iff.mp hhigh).2 (Nat.succ_injective hlen)
  · intro h
    cases h with
    | ended hhigh hlen => exact .ended (allHigh_cons_iff.mpr ⟨hb, hhigh⟩) (Nat.succ_lt_succ hlen)
    | overflow hg hlen hlimit =>
      rw [hvalue] at hlimit
      exact .overflow (.more hb hg) (Nat.succ_le_succ hlen) hlimit
    | tooLong hhigh hlen =>
      exact .tooLong (allHigh_cons_iff.mpr ⟨hb, hhigh⟩) (congrArg Nat.succ hlen)

/-- A byte below 128 ends the number, which then can only be too great. -/
theorem numberStops_last_iff {left weight value : ℕ} {b : UInt8} {used rest : Bytes} {e : Fault}
    (hb : b.toNat < 128) :
    NumberStops (left + 1) weight value e (b :: used) rest ↔
      used = [] ∧ wordLimit ≤ value + weight * b.toNat ∧ e = .varuintOverflow := by
  constructor
  · intro h
    cases h with
    | ended hhigh _ => have := (allHigh_cons_iff.mp hhigh).1; omega
    | overflow hg _ hlimit =>
      cases hg with
      | last _ => exact ⟨rfl, hlimit, rfl⟩
      | more hb' _ => omega
    | tooLong hhigh _ => have := (allHigh_cons_iff.mp hhigh).1; omega
  · rintro ⟨rfl, hlimit, rfl⟩
    exact .overflow (.last hb) (Nat.le_add_left 1 left) hlimit

/-- Before the first byte only a missing byte, or that none may be taken, stops a number. -/
theorem numberStops_nil_iff {left weight value : ℕ} {rest : Bytes} {e : Fault} :
    NumberStops left weight value e [] rest ↔
      0 < left ∧ rest = [] ∧ e = .endOfData "varuint32" ∨ left = 0 ∧ e = .varuintTooLong := by
  constructor
  · intro h
    cases h with
    | ended _ hlen => exact .inl ⟨hlen, rfl, rfl⟩
    | overflow hg _ _ => exact (hg.ne_nil rfl).elim
    | tooLong _ hlen => exact .inr ⟨hlen.symm, rfl⟩
  · rintro (⟨hleft, rfl, rfl⟩ | ⟨rfl, rfl⟩)
    · exact .ended allHigh_nil hleft
    · exact .tooLong allHigh_nil rfl

theorem numberStops_zero_iff {weight value : ℕ} {used rest : Bytes} {e : Fault} :
    NumberStops 0 weight value e used rest ↔ used = [] ∧ e = .varuintTooLong := by
  constructor
  · intro h
    cases h with
    | ended _ hlen => exact absurd hlen (Nat.not_lt_zero _)
    | overflow hg hlen _ =>
      exact (hg.ne_nil (List.eq_nil_of_length_eq_zero (Nat.le_zero.mp hlen))).elim
    | tooLong _ hlen => exact ⟨List.eq_nil_of_length_eq_zero hlen, rfl⟩
  · rintro ⟨rfl, rfl⟩
    exact .tooLong allHigh_nil rfl

/-- A byte is there or not; if it is, it ends the number or is a group before others. -/
theorem stops_getVaruintFrom_succ {left weight value : ℕ} {bs rest : Bytes} {e : Fault} :
    (getVaruintFrom (left + 1) weight value).Stops bs e rest ↔
      bs = [] ∧ rest = [] ∧ e = .endOfData "varuint32" ∨
        ∃ b mid, bs = b :: mid ∧
          (b.toNat < 128 ∧ mid = rest ∧ wordLimit ≤ value + weight * b.toNat ∧
              e = .varuintOverflow ∨
            128 ≤ b.toNat ∧ (getVaruintFrom left (128 * weight)
              (value + weight * (b.toNat % 128))).Stops mid e rest) := by
  rw [getVaruintFrom, stops_bind, stops_getByte]
  refine or_congr_right (exists_congr fun b => exists_congr fun mid => ?_)
  rw [takes_getByte]
  refine and_congr_right fun _ => ?_
  by_cases hb : b.toNat < 128
  · rw [if_pos (UInt8.lt_iff_toNat_lt.mpr hb), Nat.mod_eq_of_lt hb]
    split_ifs with hlt
    · rw [stops_pure]
      simp [Nat.not_le.mpr hlt, Nat.not_le.mpr hb]
    · rw [stops_throw]
      simp [hb, Nat.le_of_not_lt hlt, and_comm, eq_comm]
  · rw [if_neg fun h => hb (UInt8.lt_iff_toNat_lt.mp h)]
    simp [hb, Nat.le_of_not_lt hb]

theorem stops_getVaruintFrom {left weight value : ℕ} {bs rest : Bytes} {e : Fault} :
    (getVaruintFrom left weight value).Stops bs e rest ↔
      ∃ used, bs = used ++ rest ∧ NumberStops left weight value e used rest := by
  -- `value` is what the groups before make, `weight` what the next group counts
  induction left generalizing weight value bs with
  | zero =>
    rw [getVaruintFrom, stops_throw]
    constructor
    · rintro ⟨rfl, rfl⟩
      exact ⟨[], rfl, numberStops_zero_iff.mpr ⟨rfl, rfl⟩⟩
    · rintro ⟨used, rfl, h⟩
      obtain ⟨rfl, rfl⟩ := numberStops_zero_iff.mp h
      exact ⟨rfl, rfl⟩
  | succ left ih =>
    rw [stops_getVaruintFrom_succ]
    constructor
    · rintro (⟨rfl, rfl, rfl⟩ | ⟨b, mid, rfl, ⟨hb, rfl, hlimit, rfl⟩ | ⟨hb, hmid⟩⟩)
      · exact ⟨[], rfl, .ended allHigh_nil left.succ_pos⟩
      · exact ⟨[b], rfl, (numberStops_last_iff hb).mpr ⟨rfl, hlimit, rfl⟩⟩
      · obtain ⟨used, rfl, h⟩ := ih.mp hmid
        exact ⟨b :: used, rfl, (numberStops_cons_iff hb).mpr h⟩
    · rintro ⟨_ | ⟨b, used⟩, rfl, h⟩
      · rcases numberStops_nil_iff.mp h with ⟨-, rfl, rfl⟩ | ⟨hleft, -⟩
        · exact .inl ⟨rfl, rfl, rfl⟩
        · exact absurd hleft left.succ_ne_zero
      · refine .inr ⟨b, used ++ rest, rfl, ?_⟩
        rcases Nat.lt_or_ge b.toNat 128 with hb | hb
        · obtain ⟨rfl, hlimit, rfl⟩ := (numberStops_last_iff hb).mp h
          exact .inl ⟨hb, rfl, hlimit, rfl⟩
        · exact .inr ⟨hb, ih.mpr ⟨used, rfl, (numberStops_cons_iff hb).mp h⟩⟩

/-- A number stops in one of three ways, behind at most five bytes. -/
theorem stops_getVaruint {bs rest : Bytes} {e : Fault} :
    getVaruint.Stops bs e rest ↔ ∃ used, bs = used ++ rest ∧ NumberStops 5 1 0 e used rest :=
  stops_getVaruintFrom

theorem NumberStops.length_le {left weight value : ℕ} {e : Fault} {used rest : Bytes}
    (h : NumberStops left weight value e used rest) : used.length ≤ left := by
  cases h with
  | ended _ hlen => exact hlen.le
  | overflow _ hlen _ => exact hlen
  | tooLong _ hlen => exact hlen.le

/-- All bytes gone through but the last announce another one. -/
theorem NumberStops.high {left weight value : ℕ} {e : Fault} {used rest : Bytes}
    (h : NumberStops left weight value e used rest) : AllHigh used.dropLast := by
  cases h with
  | ended hhigh _ => exact fun b hb => hhigh b (List.mem_of_mem_dropLast hb)
  | overflow hg _ _ => exact hg.high_dropLast
  | tooLong hhigh _ => exact fun b hb => hhigh b (List.mem_of_mem_dropLast hb)

/-- Where a byte may be taken and there is one, it is gone through. -/
theorem NumberStops.rest_eq_nil {left weight value : ℕ} {e : Fault} {rest : Bytes}
    (h : NumberStops left weight value e [] rest) (hleft : left ≠ 0) : rest = [] := by
  rcases numberStops_nil_iff.mp h with ⟨-, hrest, -⟩ | ⟨h₀, -⟩
  · exact hrest
  · exact absurd h₀ hleft

/-! ## Texts -/

/-- How the reading of a text ends without one: the fault, the bytes gone through, which are
those of its length, and those that are left. -/
inductive TextStops (field : String) : Fault → Bytes → Bytes → Prop
  /-- There is no length. -/
  | noLength {e : Fault} {used rest : Bytes} :
      NumberStops 5 1 0 e used rest → TextStops field e used rest
  /-- More bytes are announced than there are. -/
  | tooFew {n : ℕ} {used rest : Bytes} : IsVaruint n used → rest.length < n →
      TextStops field (.lengthExceeds field n rest.length) used rest
  /-- The bytes announced are there and are not UTF-8. -/
  | notUtf8 {n : ℕ} {used rest : Bytes} {fault : Utf8.Fault} : IsVaruint n used →
      n ≤ rest.length → Utf8.decode (rest.take n) = .error fault →
      TextStops field (.notUtf8 field fault) used rest

/-- A text stops at its length or behind it; none of its own bytes are gone through. -/
theorem stops_getText {field : String} {bs rest : Bytes} {e : Fault} :
    (getText field).Stops bs e rest ↔ ∃ used, bs = used ++ rest ∧ TextStops field e used rest := by
  unfold getText
  rw [stops_bind, stops_getVaruint]
  constructor
  · rintro (⟨used, rfl, h⟩ | ⟨v, mid, hv, h⟩)
    · exact ⟨used, rfl, .noLength h⟩
    · obtain ⟨ps, rfl, hps⟩ := takes_getVaruint.mp hv
      rw [stops_get_bind] at h
      split_ifs at h with hlen
      · obtain ⟨rfl, rfl⟩ := stops_throw.mp h
        exact ⟨ps, rfl, .tooFew hps hlen⟩
      · split at h
        · next fault hd =>
          obtain ⟨rfl, rfl⟩ := stops_throw.mp h
          exact ⟨ps, rfl, .notUtf8 hps (Nat.le_of_not_lt hlen) hd⟩
        · rw [stops_set_bind, stops_pure] at h
          exact h.elim
  · rintro ⟨used, rfl, h⟩
    cases h with
    | noLength h => exact .inl ⟨used, rfl, h⟩
    | @tooFew n _ _ hn hlen =>
      have hword : (UInt32.ofNat n).toNat = n := UInt32.toNat_ofNat_of_lt' hn.lt
      refine .inr ⟨UInt32.ofNat n, rest, takes_getVaruint.mpr ⟨used, rfl, by rwa [hword]⟩, ?_⟩
      rw [stops_get_bind, hword, if_pos hlen]
      exact stops_throw.mpr ⟨rfl, rfl⟩
    | @notUtf8 n _ _ fault hn hlen hd =>
      have hword : (UInt32.ofNat n).toNat = n := UInt32.toNat_ofNat_of_lt' hn.lt
      refine .inr ⟨UInt32.ofNat n, rest, takes_getVaruint.mpr ⟨used, rfl, by rwa [hword]⟩, ?_⟩
      rw [stops_get_bind, hword, if_neg (Nat.not_lt.mpr hlen), hd]
      exact stops_throw.mpr ⟨rfl, rfl⟩

theorem TextStops.length_le {field : String} {e : Fault} {used rest : Bytes}
    (h : TextStops field e used rest) : used.length ≤ 5 := by
  cases h with
  | noLength h => exact h.length_le
  | tooFew hn _ | notUtf8 hn _ _ => exact hn.length_le

theorem TextStops.high {field : String} {e : Fault} {used rest : Bytes}
    (h : TextStops field e used rest) : AllHigh used.dropLast := by
  cases h with
  | noLength h => exact h.high
  | tooFew hn _ | notUtf8 hn _ _ => exact hn.groups.high_dropLast

theorem TextStops.rest_eq_nil {field : String} {e : Fault} {rest : Bytes}
    (h : TextStops field e [] rest) : rest = [] := by
  cases h with
  | noLength h => exact h.rest_eq_nil (by decide)
  | tooFew hn _ | notUtf8 hn _ _ => exact (hn.groups.ne_nil rfl).elim

/-- How the reading of an optional text ends without one: the fault, the flag and the length
gone through, and the bytes that are left. -/
inductive OptionalStops (field : String) : Fault → Bytes → Bytes → Bytes → Prop
  /-- There is no flag. -/
  | noFlag : OptionalStops field (.endOfData field) [] [] []
  /-- The flag is none. -/
  | badFlag {b : UInt8} {rest : Bytes} : b ≠ 0 → b ≠ 1 →
      OptionalStops field (.badFlag field b) [b] [] rest
  /-- There is no text behind the flag. -/
  | noText {e : Fault} {used rest : Bytes} : TextStops field e used rest →
      OptionalStops field e [1] used rest

theorem OptionalStops.length_le {field : String} {e : Fault} {flag used rest : Bytes}
    (h : OptionalStops field e flag used rest) : flag.length ≤ 1 ∧ used.length ≤ 5 := by
  cases h with
  | noFlag | badFlag _ _ => simp
  | noText h => exact ⟨le_rfl, h.length_le⟩

theorem OptionalStops.high {field : String} {e : Fault} {flag used rest : Bytes}
    (h : OptionalStops field e flag used rest) : AllHigh used.dropLast := by
  cases h with
  | noFlag | badFlag _ _ => exact allHigh_nil
  | noText h => exact h.high

theorem OptionalStops.rest_eq_nil {field : String} {e : Fault} {used rest : Bytes}
    (h : OptionalStops field e [] used rest) : rest = [] := by
  cases h with
  | noFlag => rfl

/-- An optional text stops at its flag, at the length of its text or behind that. -/
theorem stops_getOptionalText {field : String} {bs rest : Bytes} {e : Fault} :
    (getOptionalText field).Stops bs e rest ↔
      ∃ flag used, bs = flag ++ used ++ rest ∧ OptionalStops field e flag used rest := by
  unfold getOptionalText
  rw [stops_bind, stops_getByte]
  constructor
  · rintro (⟨rfl, rfl, rfl⟩ | ⟨b, mid, hb, h⟩)
    · exact ⟨[], [], rfl, .noFlag⟩
    · rw [takes_getByte.mp hb]
      split_ifs at h with h₀ h₁
      · exact (stops_pure.mp h).elim
      · obtain ⟨used, rfl, ht⟩ := stops_getText.mp (stops_bind_pure.mp h)
        exact ⟨[1], used, by rw [h₁]; rfl, .noText ht⟩
      · obtain ⟨rfl, rfl⟩ := stops_throw.mp h
        exact ⟨[b], [], rfl, .badFlag h₀ h₁⟩
  · rintro ⟨flag, used, rfl, h⟩
    cases h with
    | noFlag => exact .inl ⟨rfl, rfl, rfl⟩
    | @badFlag b _ h₀ h₁ =>
      refine .inr ⟨b, rest, takes_getByte.mpr rfl, ?_⟩
      rw [if_neg h₀, if_neg h₁]
      exact stops_throw.mpr ⟨rfl, rfl⟩
    | noText ht =>
      refine .inr ⟨1, used ++ rest, takes_getByte.mpr rfl, ?_⟩
      rw [if_neg (by decide), if_pos rfl]
      exact stops_bind_pure.mpr (stops_getText.mpr ⟨used, rfl, ht⟩)

end OffchainSeal.Wire
