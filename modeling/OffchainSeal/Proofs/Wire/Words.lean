import OffchainSeal.Proofs.Wire.Access
import OffchainSeal.Proofs.Wire.Stops

/-!
# Numbers in machine words

A number goes through words of the machine: the writer masks and shifts a word of 32 bits, the
reader shifts the groups into one of 64 bits. Here both are written with the operations on
words, of which a shift to the left may lose a bit; none does, and the words are those of
base-128 arithmetic.

Results:
* `groups_iff`: a row of groups is told by the high bits of its bytes, its number is a sum.
* `isShortestRow_varuint`: of all rows of a number the written one is the only shortest.
* `wordGroups_eq`, `safe_wordVaruint`: the loops on words do what the writer and the reader do.
* `varuint_exact`: what is written for every number, and what becomes of any bytes.
-/

namespace OffchainSeal.Wire

/-! ## Rows of groups as sums -/

/-- The sum of the low seven bits of the bytes, of which those of byte `i` count `128 ^ i`. -/
def groupSum (bs : Bytes) : ℕ :=
  ∑ i : Fin bs.length, bs[i].toNat % 128 * 128 ^ (i : ℕ)

/-- All bytes but the last have the high bit set, and the last has not. -/
structure IsRow (bs : Bytes) : Prop where
  high : AllHigh bs.dropLast
  low : ∃ b, bs.getLast? = some b ∧ b.toNat < 128

theorem groupSum_cons (b : UInt8) (bs : Bytes) :
    groupSum (b :: bs) = b.toNat % 128 + 128 * groupSum bs := by
  unfold groupSum
  change ∑ i : Fin (bs.length + 1), (b :: bs)[i].toNat % 128 * 128 ^ (i : ℕ) = _
  rw [Fin.sum_univ_succ, Finset.mul_sum]
  refine congrArg₂ _ (by simp) (Finset.sum_congr rfl fun i _ => ?_)
  simp only [Fin.getElem_fin, Fin.val_succ, List.getElem_cons_succ, pow_succ]
  ring

theorem isRow_singleton_iff {b : UInt8} : IsRow [b] ↔ b.toNat < 128 := by
  constructor
  · rintro ⟨-, c, hc, hlow⟩
    cases hc
    exact hlow
  · intro h
    exact ⟨allHigh_nil, b, rfl, h⟩

theorem isRow_cons_iff {b : UInt8} {bs : Bytes} (h : bs ≠ []) :
    IsRow (b :: bs) ↔ 128 ≤ b.toNat ∧ IsRow bs := by
  have hdrop : (b :: bs).dropLast = b :: bs.dropLast := List.dropLast_cons_of_ne_nil h
  have hlast : (b :: bs).getLast? = bs.getLast? := by
    obtain ⟨c, cs, rfl⟩ := List.exists_cons_of_ne_nil h
    rfl
  constructor
  · rintro ⟨hhigh, hlow⟩
    rw [hdrop, allHigh_cons_iff] at hhigh
    rw [hlast] at hlow
    exact ⟨hhigh.1, hhigh.2, hlow⟩
  · rintro ⟨hb, hhigh, hlow⟩
    exact ⟨by rw [hdrop, allHigh_cons_iff]; exact ⟨hb, hhigh⟩, by rw [hlast]; exact hlow⟩

theorem not_isRow_nil : ¬ IsRow [] := by
  rintro ⟨-, b, hb, -⟩
  cases hb

/-- A row of groups is told by the high bits of its bytes, and its number is the sum. -/
theorem groups_iff {n : ℕ} {bs : Bytes} : Groups n bs ↔ IsRow bs ∧ groupSum bs = n := by
  induction bs generalizing n with
  | nil =>
    constructor
    · intro h
      exact absurd rfl h.ne_nil
    · rintro ⟨h, -⟩
      exact absurd h not_isRow_nil
  | cons b bs ih =>
    rw [groupSum_cons]
    by_cases hbs : bs = []
    · subst hbs
      have hsum : groupSum [] = 0 := by simp [groupSum]
      rw [isRow_singleton_iff, hsum]
      constructor
      · intro h
        cases h with
        | last hb => exact ⟨hb, by omega⟩
        | more _ h => exact absurd rfl h.ne_nil
      · rintro ⟨hb, rfl⟩
        have hvalue : b.toNat % 128 + 128 * 0 = b.toNat := by omega
        rw [hvalue]
        exact .last hb
    · rw [isRow_cons_iff hbs]
      constructor
      · intro h
        cases h with
        | last hb => exact absurd rfl hbs
        | more hb h =>
          obtain ⟨hrow, rfl⟩ := ih.mp h
          exact ⟨⟨hb, hrow⟩, rfl⟩
      · rintro ⟨⟨hb, hrow⟩, rfl⟩
        exact .more hb (ih.mpr ⟨hrow, rfl⟩)

/-- Every row of a number has at least the length of the written one, and only that one has
no more. -/
theorem groups_shortest {n : ℕ} {bs : Bytes} (h : Groups n bs) :
    (varuint n).length ≤ bs.length ∧ (bs.length = (varuint n).length → bs = varuint n) := by
  induction h with
  | @last b hb =>
    rw [varuint, if_pos hb, UInt8.ofNat_toNat]
    exact ⟨le_rfl, fun _ => rfl⟩
  | @more b n bs hb hg ih =>
    have hpos : 0 < bs.length := List.length_pos_of_ne_nil hg.ne_nil
    by_cases hn : n = 0
    · subst hn
      rw [varuint, if_pos (by omega)]
      simp only [List.length_cons, List.length_nil]
      exact ⟨by omega, fun hlen => by omega⟩
    · have hdiv : (b.toNat % 128 + 128 * n) / 128 = n := by omega
      have hbyte : b = UInt8.ofNat (128 + (b.toNat % 128 + 128 * n) % 128) :=
        Utf8.eq_ofNat_of_toNat_eq (by have := b.toNat_lt; omega)
      rw [varuint, if_neg (by omega), hdiv, ← hbyte]
      simp only [List.length_cons]
      refine ⟨by omega, fun hlen => ?_⟩
      rw [ih.2 (by omega)]

/-- The bytes are a row of groups of the number, of one to five bytes; the last is not zero
unless the number is. All other rows of the number are longer. -/
structure IsShortestRow (n : ℕ) (bs : Bytes) : Prop where
  row : IsRow bs
  sum : groupSum bs = n
  length_pos : 1 ≤ bs.length
  length_le : bs.length ≤ 5
  last : bs.getLast? = some 0 → n = 0
  least : ∀ other, IsRow other → groupSum other = n → other ≠ bs → bs.length < other.length

theorem isShortestRow_varuint {n : ℕ} (h : n < wordLimit) : IsShortestRow n (varuint n) := by
  have hgroups := groups_varuint n
  obtain ⟨hrow, hsum⟩ := groups_iff.mp hgroups
  refine ⟨hrow, hsum, List.length_pos_of_ne_nil hgroups.ne_nil, (isVaruint_varuint h).length_le,
    fun hlast => ?_, fun other hother hn hne => ?_⟩
  · rcases isShortest_varuint n with hlen | hzero
    · obtain ⟨b, hb⟩ := List.length_eq_one_iff.mp hlen
      rw [hb] at hlast hsum
      cases hlast
      rw [← hsum, groupSum_cons]
      rfl
    · exact absurd hlast hzero
  · obtain ⟨hle, heq⟩ := groups_shortest (groups_iff.mpr ⟨hother, hn⟩)
    exact lt_of_le_of_ne hle fun hlen => hne (heq hlen.symm)

theorem groupSum_lt (bs : Bytes) : groupSum bs < 128 ^ bs.length := by
  induction bs with
  | nil => simp [groupSum]
  | cons b bs ih =>
    rw [groupSum_cons, List.length_cons, pow_succ]
    have := Nat.mod_lt b.toNat (show 0 < 128 by norm_num)
    omega

/-- Less than five groups always fit into 32 bits. -/
theorem length_of_overflow {bs : Bytes} (hlen : bs.length ≤ 5) (h : wordLimit ≤ groupSum bs) :
    bs.length = 5 := by
  by_contra hne
  have hpow : 128 ^ bs.length ≤ 128 ^ 4 := Nat.pow_le_pow_right (by norm_num) (by omega)
  have := groupSum_lt bs
  unfold wordLimit at h
  omega

/-! ## Bits and arithmetic -/

theorem and_low_seven (n : ℕ) : n &&& 0x7f = n % 128 :=
  Nat.and_two_pow_sub_one_eq_mod n 7

/-- A number below a power of two and a multiple of it have no bit in common. -/
theorem or_shifted {a k : ℕ} (h : a < 2 ^ k) (b : ℕ) : a ||| b * 2 ^ k = a + b * 2 ^ k := by
  have := Nat.two_pow_add_eq_or_of_lt h b
  rw [Nat.or_comm, Nat.mul_comm b, ← this, Nat.add_comm]

theorem toNat_low_seven (b : UInt8) : (b &&& 0x7f).toNat = b.toNat % 128 := by
  rw [UInt8.toNat_and]
  exact and_low_seven b.toNat

theorem and_high_eq_zero_iff (b : UInt8) : b &&& 0x80 = 0 ↔ b < 128 := by
  have htable : ∀ n < 256, UInt8.ofNat n &&& 0x80 = 0 ↔ UInt8.ofNat n < 128 := by decide +kernel
  have := htable b.toNat b.toNat_lt
  rwa [UInt8.ofNat_toNat] at this

/-! ## The writer on words -/

theorem toNat_shiftRight_seven (v : UInt32) : (v >>> 7).toNat = v.toNat / 128 := by
  rw [UInt32.toNat_shiftRight]
  exact Nat.shiftRight_eq_div_pow v.toNat 7

theorem shiftRight_seven_eq_zero_iff (v : UInt32) : v >>> 7 = 0 ↔ v.toNat < 128 := by
  rw [← UInt32.toNat_inj, toNat_shiftRight_seven, UInt32.toNat_zero]
  omega

/-- The number in seven-bit groups, by masks and shifts of a word. -/
def wordGroups (v : UInt32) : Bytes :=
  let byte := (v &&& 0x7f).toUInt8
  let rest := v >>> 7
  if rest = 0 then [byte] else (byte ||| 0x80) :: wordGroups rest
termination_by v.toNat
decreasing_by
  rename_i h
  have hhigh := mt (shiftRight_seven_eq_zero_iff v).mpr h
  have hrest := toNat_shiftRight_seven v
  omega

theorem toNat_masked (v : UInt32) : (v &&& 0x7f).toUInt8.toNat = v.toNat % 128 := by
  have hand : (v &&& 0x7f).toNat = v.toNat % 128 := by
    rw [UInt32.toNat_and]
    exact and_low_seven v.toNat
  rw [UInt32.toNat_toUInt8, hand]
  omega

theorem toNat_marked {b : UInt8} (h : b.toNat < 128) : (b ||| 0x80).toNat = 128 + b.toNat := by
  have := or_shifted (k := 7) h 1
  rw [UInt8.toNat_or]
  change b.toNat ||| 1 * 2 ^ 7 = _
  omega

/-- The loop on words writes the number. -/
theorem wordGroups_eq (v : UInt32) : wordGroups v = varuint v.toNat := by
  induction hn : v.toNat using Nat.strong_induction_on generalizing v with
  | _ n ih =>
    subst hn
    have hmask := toNat_masked v
    rw [wordGroups, varuint]
    by_cases h : v.toNat < 128
    · rw [if_pos ((shiftRight_seven_eq_zero_iff v).mpr h), if_pos h]
      congr 1
      exact Utf8.eq_ofNat_of_toNat_eq (by omega)
    · have hrest := toNat_shiftRight_seven v
      have hmark := toNat_marked (b := (v &&& 0x7f).toUInt8) (by omega)
      rw [if_neg (mt (shiftRight_seven_eq_zero_iff v).mp h), if_neg h,
        ih _ (by omega) _ rfl, hrest]
      congr 1
      exact Utf8.eq_ofNat_of_toNat_eq (by omega)

/-! ## The reader on words -/

namespace Access

/-- The word moved to the left. There is no outcome if a bit falls out, or if the word is moved
by as many places as it has. -/
def shiftLeft (v : UInt64) (places : ℕ) : Access UInt64 :=
  if places < 64 ∧ v.toNat * 2 ^ places < 2 ^ 64 then return v <<< UInt64.ofNat places
  else ExceptT.lift (StateT.lift none)

/-- Takes at most `left` more bytes of a number. The groups of the `i` bytes before are in
`value`. -/
def wordVaruintFrom : ℕ → ℕ → UInt64 → Access UInt32
  | 0, _, _ => throw .varuintTooLong
  | left + 1, i, value => do
    let b ← byte "varuint32"
    let group ← shiftLeft (b &&& 0x7f).toUInt64 (7 * i)
    let value := value ||| group
    if b &&& 0x80 = 0 then
      if value.toNat < wordLimit then return value.toUInt32 else throw .varuintOverflow
    else wordVaruintFrom left (i + 1) value

/-- Takes a number of at most five bytes. -/
def wordVaruint : Access UInt32 :=
  wordVaruintFrom 5 0 0

/-- Behind a shift that loses no bit it is enough to look at what it gives. -/
theorem safe_shiftLeft_bind {β : Type} {v : UInt64} {places : ℕ} {c : UInt64 → Access β}
    {g : Get β} {bs : Bytes} (hplaces : places < 64) (hfits : v.toNat * 2 ^ places < 2 ^ 64)
    (h : ∀ w : UInt64, w.toNat = v.toNat * 2 ^ places → SafeAt (c w) g bs) :
    SafeAt (shiftLeft v places >>= c) g bs := by
  have hshift : (v <<< UInt64.ofNat places).toNat = v.toNat * 2 ^ places := by
    have hword : (UInt64.ofNat places).toNat = places :=
      UInt64.toNat_ofNat_of_lt' (lt_trans hplaces (by decide))
    rw [UInt64.toNat_shiftLeft, hword, Nat.mod_eq_of_lt hplaces, Nat.shiftLeft_eq,
      Nat.mod_eq_of_lt hfits]
  have hresult : (shiftLeft v places).result bs = some (.ok (v <<< UInt64.ofNat places), bs) := by
    unfold shiftLeft
    rw [if_pos ⟨hplaces, hfits⟩]
    rfl
  unfold SafeAt
  rw [result_bind, hresult]
  exact h _ hshift

/-- Each group goes behind those before it, which are below `128 ^ i`: so the bits of the two
do not meet, and as long as `i` is below nine no bit is lost. -/
theorem safe_wordVaruintFrom {left i : ℕ} {value : UInt64} (hi : left + i ≤ 9)
    (hvalue : value.toNat < 128 ^ i) (bs : Bytes) :
    SafeAt (wordVaruintFrom left i value) (getVaruintFrom left (128 ^ i) value.toNat) bs := by
  induction left generalizing i value bs with
  | zero => exact safe_throw _ _
  | succ left ih =>
    have hpow : 2 ^ (7 * i) = 128 ^ i := by rw [pow_mul]; norm_num
    have hle : 128 ^ (i + 1) ≤ 128 ^ 9 := Nat.pow_le_pow_right (by norm_num) (by omega)
    rw [wordVaruintFrom, getVaruintFrom]
    refine safe_bind (safe_byte _ _) fun b mid _ => ?_
    have hgroup : (b &&& 0x7f).toUInt64.toNat = b.toNat % 128 := by
      rw [UInt8.toNat_toUInt64, toNat_low_seven]
    have hlt : b.toNat % 128 < 128 := Nat.mod_lt _ (by norm_num)
    have hfits : b.toNat % 128 * 128 ^ i + 128 ^ i ≤ 128 ^ (i + 1) := by
      rw [pow_succ]
      have := Nat.mul_le_mul_right (128 ^ i) (show b.toNat % 128 + 1 ≤ 128 by omega)
      rwa [Nat.add_mul, Nat.one_mul, Nat.mul_comm 128] at this
    refine safe_shiftLeft_bind (by omega) (by rw [hgroup, hpow]; omega) fun w hw => ?_
    rw [hgroup, hpow] at hw
    have hor : (value ||| w).toNat = value.toNat + 128 ^ i * (b.toNat % 128) := by
      rw [UInt64.toNat_or, hw, ← hpow, or_shifted (by rw [hpow]; exact hvalue), Nat.mul_comm]
    dsimp only
    rw [← hor]
    simp only [and_high_eq_zero_iff]
    split_ifs
    · exact safe_pure _ _
    · exact safe_throw _ _
    · have hnext : (value ||| w).toNat < 128 ^ (i + 1) := by
        rw [hor, Nat.mul_comm]
        omega
      have hweight : 128 * 128 ^ i = 128 ^ (i + 1) := by ring
      rw [hweight]
      exact ih (by omega) hnext mid

/-- The loop on words reads what the reader reads, and no shift loses a bit. -/
theorem safe_wordVaruint (bs : Bytes) : SafeAt wordVaruint getVaruint bs :=
  safe_wordVaruintFrom (by norm_num) (by norm_num) bs

end Access

/-! ## Every number and all bytes -/

/-- How the reading of a number fails: the fault, the bytes gone through, and those left. -/
inductive VaruintFails : Fault → Bytes → Bytes → Prop
  /-- There are less than five bytes, and each announces another one. -/
  | ended {used : Bytes} : AllHigh used → used.length < 5 →
      VaruintFails (.endOfData "varuint32") used []
  /-- One of the first five bytes is the last, and the sum takes more than 32 bits. -/
  | overflow {used rest : Bytes} : IsRow used → used.length ≤ 5 → 2 ^ 32 ≤ groupSum used →
      VaruintFails .varuintOverflow used rest
  /-- The first five bytes announce another one. -/
  | tooLong {used rest : Bytes} : AllHigh used → used.length = 5 →
      VaruintFails .varuintTooLong used rest

theorem numberStops_five_iff {e : Fault} {used rest : Bytes} :
    NumberStops 5 1 0 e used rest ↔ VaruintFails e used rest := by
  constructor
  · intro h
    cases h with
    | ended hhigh hlen => exact .ended hhigh hlen
    | overflow hg hlen hlimit =>
      obtain ⟨hrow, rfl⟩ := groups_iff.mp hg
      rw [Nat.zero_add, Nat.one_mul] at hlimit
      exact .overflow hrow hlen hlimit
    | tooLong hhigh hlen => exact .tooLong hhigh hlen
  · intro h
    cases h with
    | ended hhigh hlen => exact .ended hhigh hlen
    | overflow hrow hlen hlimit =>
      refine .overflow (groups_iff.mpr ⟨hrow, rfl⟩) hlen ?_
      rw [Nat.zero_add, Nat.one_mul]
      exact hlimit
    | tooLong hhigh hlen => exact .tooLong hhigh hlen

/-- For every number of 32 bits the writer appends its shortest row of groups. From any bytes
the reader takes a number exactly if one of the first five bytes is the last of a row whose
sum fits into 32 bits, and goes through that row; otherwise it fails in one of three ways, by
overflow only at the fifth byte. Both do what the loops on machine words do, and these lose no
bit. -/
theorem varuint_exact :
    (∀ (v : UInt32) (bs : Bytes), ∃ w, (putVaruint v).result bs = (.ok (), bs ++ w) ∧
      IsShortestRow v.toNat w ∧ wordGroups v = w) ∧
    ∀ bs : Bytes,
      (∀ v rest, getVaruint.result bs = (.ok v, rest) ↔
        ∃ used, bs = used ++ rest ∧ used.length ≤ 5 ∧ IsRow used ∧
          groupSum used < 2 ^ 32 ∧ groupSum used = v.toNat) ∧
      (∀ e rest, getVaruint.result bs = (.error e, rest) ↔
        ∃ used, bs = used ++ rest ∧ VaruintFails e used rest) ∧
      (∀ used rest, VaruintFails .varuintOverflow used rest → used.length = 5) ∧
      Access.wordVaruint.result bs = some (getVaruint.result bs) := by
  refine ⟨fun v bs => ?_, fun bs => ⟨fun v rest => ?_, fun e rest => ?_, fun used rest h => ?_,
    Access.safe_wordVaruint bs⟩⟩
  · exact ⟨varuint v.toNat, writes_putBytes _ bs, isShortestRow_varuint v.toNat_lt,
      wordGroups_eq v⟩
  · refine takes_getVaruint.trans (exists_congr fun used => and_congr_right fun _ => ?_)
    constructor
    · rintro ⟨hg, hlen, hlt⟩
      obtain ⟨hrow, hsum⟩ := groups_iff.mp hg
      exact ⟨hlen, hrow, hsum ▸ hlt, hsum⟩
    · rintro ⟨hlen, hrow, hlt, hsum⟩
      exact ⟨groups_iff.mpr ⟨hrow, hsum⟩, hlen, v.toNat_lt⟩
  · refine stops_getVaruint.trans (exists_congr fun used => and_congr_right fun _ => ?_)
    exact numberStops_five_iff
  · cases h with
    | overflow hrow hlen hlimit => exact length_of_overflow hlen hlimit

/-- Five full groups are the greatest number of 32 bits only if the last of them is 15. -/
example : getVaruint.result [0xff, 0xff, 0xff, 0xff, 0x0f, 7] = (.ok 0xffffffff, [7]) ∧
    getVaruint.result [0xff, 0xff, 0xff, 0xff, 0x1f, 7] = (.error .varuintOverflow, [7]) := by
  decide

end OffchainSeal.Wire
