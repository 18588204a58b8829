import OffchainSeal.Proofs.Result
import OffchainSeal.Text.Utf8

/-!
# UTF-8 is exact

The reader takes one character exactly from the bytes that the writer gives it.
So a byte string is UTF-8 in one way at most, and it is the written form of the
text it reads as.

* `decodeChar_eq_ok_iff`: one character.
* `decode_eq_ok_iff`: a whole byte string.
* `encode_injective`: no two texts have one byte form.
* `encode_toList`: the bytes are those of the library's strings.
-/

namespace OffchainSeal.Utf8

/-! ## Bytes as numbers -/

theorem toNat_ofNat_of_lt {n : ℕ} (h : n < 256) : (UInt8.ofNat n).toNat = n := by
  rw [UInt8.toNat_ofNat']; exact Nat.mod_eq_of_lt h

theorem eq_ofNat_of_toNat_eq {b : UInt8} {n : ℕ} (h : b.toNat = n) : b = UInt8.ofNat n := by
  rw [← h, UInt8.ofNat_toNat]

theorem toNat_continuation (n : ℕ) : (continuation n).toNat = 0x80 + n % 64 :=
  toNat_ofNat_of_lt (by omega)

/-- A scalar value is below the surrogates or above them. -/
theorem scalar_range (c : Char) : c.toNat < 0xd800 ∨ 0xdfff < c.toNat ∧ c.toNat < 0x110000 :=
  c.valid

theorem toNat_charOfNat {n : ℕ} (h : n < 0xd800 ∨ 0xdfff < n ∧ n < 0x110000) :
    (Char.ofNat n).toNat = n := by
  rw [Char.toNat_ofNat]
  exact if_pos h

theorem charOfNat_eq {c : Char} {n : ℕ} (h : c.toNat = n) : Char.ofNat n = c := by
  rw [← h, Char.ofNat_toNat]

/-! ## One character -/

theorem follow_zero (low high : UInt8) (bits taken : ℕ) (rest : Bytes) :
    follow 0 low high bits taken rest = .ok (bits, rest) := rfl

theorem follow_succ_eq_ok_iff {more bits taken : ℕ} {low high : UInt8} {rest : Bytes}
    {r : ℕ × Bytes} :
    follow (more + 1) low high bits taken rest = .ok r ↔
      ∃ b tl, rest = b :: tl ∧ low.toNat ≤ b.toNat ∧ b.toNat ≤ high.toNat ∧
        follow more 0x80 0xbf (64 * bits + (b.toNat - 0x80)) (taken + 1) tl = .ok r := by
  cases rest with
  | nil => simp [follow]
  | cons b tl =>
    rw [follow]
    by_cases h : low ≤ b ∧ b ≤ high
    · rw [if_pos h]
      simp only [UInt8.le_iff_toNat_le] at h
      simp [h]
    · rw [if_neg h]
      simp only [UInt8.le_iff_toNat_le] at h
      simp only [reduceCtorEq, List.cons.injEq, false_iff]
      rintro ⟨b', tl', ⟨rfl, rfl⟩, h₁, h₂, -⟩
      exact h ⟨h₁, h₂⟩

theorem encodeChar_one {n : ℕ} (h : n < 0x80) :
    encodeChar (Char.ofNat n) = [UInt8.ofNat n] := by
  unfold encodeChar
  simp only
  rw [toNat_charOfNat (by omega), if_pos h]

theorem encodeChar_two {a b : UInt8} {n : ℕ} (ha : 0xc2 ≤ a.toNat) (ha' : a.toNat ≤ 0xdf)
    (hb : 0x80 ≤ b.toNat) (hb' : b.toNat ≤ 0xbf)
    (hn : n = 64 * (a.toNat - 0xc0) + (b.toNat - 0x80)) :
    encodeChar (Char.ofNat n) = [a, b] := by
  unfold encodeChar continuation
  simp only
  rw [toNat_charOfNat (by omega), if_neg (by omega), if_pos (by omega),
    ← eq_ofNat_of_toNat_eq (b := a) (by omega), ← eq_ofNat_of_toNat_eq (b := b) (by omega)]

theorem encodeChar_three {a b c : UInt8} {n : ℕ} (ha : 0xe0 ≤ a.toNat) (ha' : a.toNat ≤ 0xef)
    (hb : 0x80 ≤ b.toNat) (hb' : b.toNat ≤ 0xbf) (hc : 0x80 ≤ c.toNat) (hc' : c.toNat ≤ 0xbf)
    (hn : n = 64 * (64 * (a.toNat - 0xe0) + (b.toNat - 0x80)) + (c.toNat - 0x80))
    (hl : 0x800 ≤ n) (hs : n < 0xd800 ∨ 0xdfff < n) :
    encodeChar (Char.ofNat n) = [a, b, c] := by
  unfold encodeChar continuation
  simp only
  rw [toNat_charOfNat (by omega), if_neg (by omega), if_neg (by omega), if_pos (by omega),
    ← eq_ofNat_of_toNat_eq (b := a) (by omega), ← eq_ofNat_of_toNat_eq (b := b) (by omega),
    ← eq_ofNat_of_toNat_eq (b := c) (by omega)]

theorem encodeChar_four {a b c d : UInt8} {n : ℕ} (ha : 0xf0 ≤ a.toNat) (ha' : a.toNat ≤ 0xf4)
    (hb : 0x80 ≤ b.toNat) (hb' : b.toNat ≤ 0xbf) (hc : 0x80 ≤ c.toNat) (hc' : c.toNat ≤ 0xbf)
    (hd : 0x80 ≤ d.toNat) (hd' : d.toNat ≤ 0xbf)
    (hn : n = 64 * (64 * (64 * (a.toNat - 0xf0) + (b.toNat - 0x80)) + (c.toNat - 0x80)) +
      (d.toNat - 0x80))
    (hl : 0x10000 ≤ n) (hs : n < 0x110000) :
    encodeChar (Char.ofNat n) = [a, b, c, d] := by
  unfold encodeChar continuation
  simp only
  rw [toNat_charOfNat (by omega), if_neg (by omega), if_neg (by omega), if_neg (by omega),
    ← eq_ofNat_of_toNat_eq (b := a) (by omega), ← eq_ofNat_of_toNat_eq (b := b) (by omega),
    ← eq_ofNat_of_toNat_eq (b := c) (by omega), ← eq_ofNat_of_toNat_eq (b := d) (by omega)]

/-- The lead byte of two bytes. -/
theorem lead?_two {b : UInt8} (h : 0xc2 ≤ b.toNat) (h' : b.toNat ≤ 0xdf) :
    lead? b = some ⟨1, 0x80, 0xbf, b.toNat - 0xc0⟩ := by
  unfold lead?
  rw [if_pos ⟨h, h'⟩]

/-- The lead bytes of three bytes; two of them narrow the range of the second byte. -/
theorem lead?_three {b : UInt8} (h : 0xe0 ≤ b.toNat) (h' : b.toNat ≤ 0xef) :
    lead? b = some ⟨2, if b.toNat = 0xe0 then 0xa0 else 0x80,
      if b.toNat = 0xed then 0x9f else 0xbf, b.toNat - 0xe0⟩ := by
  unfold lead?
  simp only
  rw [if_neg (by omega)]
  by_cases h₀ : b.toNat = 0xe0
  · simp [h₀]
  by_cases h₁ : b.toNat = 0xed
  · simp [h₁]
  rw [if_neg h₀, if_neg h₁, if_pos (by omega), if_neg h₀, if_neg h₁]

/-- The lead bytes of four bytes; the first and the last narrow the range of the second byte. -/
theorem lead?_four {b : UInt8} (h : 0xf0 ≤ b.toNat) (h' : b.toNat ≤ 0xf4) :
    lead? b = some ⟨3, if b.toNat = 0xf0 then 0x90 else 0x80,
      if b.toNat = 0xf4 then 0x8f else 0xbf, b.toNat - 0xf0⟩ := by
  unfold lead?
  simp only
  rw [if_neg (by omega), if_neg (by omega), if_neg (by omega), if_neg (by omega)]
  by_cases h₀ : b.toNat = 0xf0
  · simp [h₀]
  by_cases h₁ : b.toNat = 0xf4
  · simp [h₁]
  rw [if_neg h₀, if_pos (by omega), if_neg h₀, if_neg h₁]

theorem lead?_range {b : UInt8} {l : Lead} (h : lead? b = some l) :
    0xc2 ≤ b.toNat ∧ b.toNat ≤ 0xf4 := by
  unfold lead? at h
  simp only at h
  split_ifs at h <;> cases h <;> omega

/-- What follows a lead byte makes with it the written form of a character. -/
theorem cons_eq_of_follow {b : UInt8} {l : Lead} {n : ℕ} {rest rest' : Bytes}
    (hl : lead? b = some l) (hf : follow l.more l.low l.high l.bits 1 rest = .ok (n, rest')) :
    b :: rest = encodeChar (Char.ofNat n) ++ rest' := by
  obtain ⟨hge, hle⟩ := lead?_range hl
  rcases Nat.lt_or_ge b.toNat 0xe0 with h | h
  · rw [lead?_two hge (by omega)] at hl
    cases hl
    simp only [follow_succ_eq_ok_iff, follow_zero, Except.ok.injEq, Prod.mk.injEq,
      UInt8.reduceToNat] at hf
    obtain ⟨b₁, -, rfl, hl₁, hu₁, rfl, rfl⟩ := hf
    rw [encodeChar_two hge (by omega) hl₁ hu₁ rfl]
    rfl
  rcases Nat.lt_or_ge b.toNat 0xf0 with h' | h'
  · rw [lead?_three h (by omega)] at hl
    cases hl
    simp only [follow_succ_eq_ok_iff, follow_zero, Except.ok.injEq, Prod.mk.injEq,
      apply_ite UInt8.toNat, UInt8.reduceToNat] at hf
    obtain ⟨b₁, -, rfl, hl₁, hu₁, b₂, -, rfl, hl₂, hu₂, rfl, rfl⟩ := hf
    -- no form longer than needed, and no surrogate
    have hlow : 0x80 ≤ b₁.toNat ∧ (b.toNat = 0xe0 → 0xa0 ≤ b₁.toNat) := by
      split_ifs at hl₁ <;> omega
    have hhigh : b₁.toNat ≤ 0xbf ∧ (b.toNat = 0xed → b₁.toNat ≤ 0x9f) := by
      split_ifs at hu₁ <;> omega
    rw [encodeChar_three (a := b) (b := b₁) (c := b₂) h (by omega) hlow.1 hhigh.1 hl₂ hu₂
      rfl (by omega) (by omega)]
    rfl
  · rw [lead?_four h' hle] at hl
    cases hl
    simp only [follow_succ_eq_ok_iff, follow_zero, Except.ok.injEq, Prod.mk.injEq,
      apply_ite UInt8.toNat, UInt8.reduceToNat] at hf
    obtain ⟨b₁, -, rfl, hl₁, hu₁, b₂, -, rfl, hl₂, hu₂, b₃, -, rfl, hl₃, hu₃, rfl, rfl⟩ := hf
    -- no form longer than needed, and nothing above the last character
    have hlow : 0x80 ≤ b₁.toNat ∧ (b.toNat = 0xf0 → 0x90 ≤ b₁.toNat) := by
      split_ifs at hl₁ <;> omega
    have hhigh : b₁.toNat ≤ 0xbf ∧ (b.toNat = 0xf4 → b₁.toNat ≤ 0x8f) := by
      split_ifs at hu₁ <;> omega
    rw [encodeChar_four (a := b) (b := b₁) (c := b₂) (d := b₃) h' hle hlow.1 hhigh.1 hl₂ hu₂
      hl₃ hu₃ rfl (by omega) (by omega)]
    rfl

theorem cons_eq_encodeChar_append {b : UInt8} {c : Char} {rest rest' : Bytes}
    (h : decodeChar b rest = .ok (c, rest')) : b :: rest = encodeChar c ++ rest' := by
  unfold decodeChar at h
  by_cases hb : b < 0x80
  · rw [if_pos hb] at h
    cases h
    rw [UInt8.lt_iff_toNat_lt] at hb
    rw [encodeChar_one (by simpa using hb), UInt8.ofNat_toNat]
    rfl
  · rw [if_neg hb] at h
    rcases hl : lead? b with _ | l
    · simp [hl] at h
    · simp only [hl] at h
      rcases hf : follow l.more l.low l.high l.bits 1 rest with e | ⟨n, rest₁⟩
      · simp [hf] at h
      · simp only [hf] at h
        cases h
        exact cons_eq_of_follow hl hf

theorem decodeChar_of_lead {b : UInt8} {l : Lead} {c : Char} {n : ℕ} {rest rest' : Bytes}
    (hb : 0x80 ≤ b.toNat) (hl : lead? b = some l) (hn : n = c.toNat)
    (hf : follow l.more l.low l.high l.bits 1 rest = .ok (n, rest')) :
    decodeChar b rest = .ok (c, rest') := by
  unfold decodeChar
  rw [if_neg (by rw [UInt8.lt_iff_toNat_lt]; simpa using hb)]
  simp only [hl, hf, charOfNat_eq hn.symm]

/-- A byte after the first is taken if it lies in the range. -/
theorem follow_continuation {more bits taken n : ℕ} {low high : UInt8} {rest : Bytes}
    (hlow : low.toNat ≤ 0x80 + n % 64) (hhigh : 0x80 + n % 64 ≤ high.toNat) :
    follow (more + 1) low high bits taken (continuation n :: rest) =
      follow more 0x80 0xbf (64 * bits + n % 64) (taken + 1) rest := by
  have h : low ≤ continuation n ∧ continuation n ≤ high := by
    rw [UInt8.le_iff_toNat_le, UInt8.le_iff_toNat_le, toNat_continuation]
    exact ⟨hlow, hhigh⟩
  rw [follow, if_pos h, toNat_continuation, Nat.add_sub_cancel_left]

/-- All of them lie in the whole range. -/
theorem follow_continuation_whole {more bits taken n : ℕ} {rest : Bytes} :
    follow (more + 1) 0x80 0xbf bits taken (continuation n :: rest) =
      follow more 0x80 0xbf (64 * bits + n % 64) (taken + 1) rest := by
  apply follow_continuation
  · show 128 ≤ _
    omega
  · show _ ≤ 191
    omega

theorem decodeChar_encodeChar {b : UInt8} {c : Char} {tl : Bytes} (h : encodeChar c = b :: tl)
    (rest : Bytes) : decodeChar b (tl ++ rest) = .ok (c, rest) := by
  have hc := scalar_range c
  unfold encodeChar at h
  simp only at h
  split_ifs at h with h₁ h₂ h₃ <;> cases h
  · have hb := toNat_ofNat_of_lt (n := c.toNat) (by omega)
    unfold decodeChar
    rw [if_pos (by rw [UInt8.lt_iff_toNat_lt, hb]; exact h₁), hb, Char.ofNat_toNat]
    rfl
  · have hb := toNat_ofNat_of_lt (n := 0xc0 + c.toNat / 64) (by omega)
    refine decodeChar_of_lead (by omega) (lead?_two (by omega) (by omega)) ?_
      follow_continuation_whole
    simp only [hb]
    omega
  · have hb := toNat_ofNat_of_lt (n := 0xe0 + c.toNat / 4096) (by omega)
    refine decodeChar_of_lead (by omega) (lead?_three (by omega) (by omega)) ?_
      ((follow_continuation ?_ ?_).trans follow_continuation_whole)
    · simp only [hb]
      omega
    · rw [hb]
      split_ifs <;> simp only [UInt8.reduceToNat] <;> omega
    · rw [hb]
      split_ifs <;> simp only [UInt8.reduceToNat] <;> omega
  · have hb := toNat_ofNat_of_lt (n := 0xf0 + c.toNat / 262144) (by omega)
    refine decodeChar_of_lead (by omega) (lead?_four (by omega) (by omega)) ?_
      ((follow_continuation ?_ ?_).trans
        (follow_continuation_whole.trans follow_continuation_whole))
    · simp only [hb]
      omega
    · rw [hb]
      split_ifs <;> simp only [UInt8.reduceToNat] <;> omega
    · rw [hb]
      split_ifs <;> simp only [UInt8.reduceToNat] <;> omega

theorem encodeChar_ne_nil (c : Char) : encodeChar c ≠ [] := by
  unfold encodeChar
  simp only
  split_ifs <;> simp

/-- One character is read exactly from its written form. -/
theorem decodeChar_eq_ok_iff {b : UInt8} {c : Char} {rest rest' : Bytes} :
    decodeChar b rest = .ok (c, rest') ↔ b :: rest = encodeChar c ++ rest' := by
  constructor
  · exact cons_eq_encodeChar_append
  · intro h
    cases hc : encodeChar c with
    | nil => exact absurd hc (encodeChar_ne_nil c)
    | cons b' tl =>
      rw [hc] at h
      cases h
      exact decodeChar_encodeChar hc rest'

/-! ## Whole texts -/

theorem encode_nil : encode [] = [] := rfl

theorem encode_cons (c : Char) (s : List Char) : encode (c :: s) = encodeChar c ++ encode s := rfl

theorem encode_eq_nil_iff {s : List Char} : encode s = [] ↔ s = [] := by
  cases s with
  | nil => simp [encode_nil]
  | cons c s => simp [encode_cons, encodeChar_ne_nil c]

theorem decodeFrom_cons {index : ℕ} {b : UInt8} {c : Char} {rest rest' : Bytes}
    (h : decodeChar b rest = .ok (c, rest')) :
    decodeFrom index (b :: rest) =
      (decodeFrom (index + (rest.length + 1 - rest'.length)) rest').map (c :: ·) := by
  rw [decodeFrom]
  split
  · next h' => rw [h] at h'; cases h'
  · next h' => rw [h] at h'; cases h'
  · next h' => rw [h] at h'; cases h'; rfl

theorem exists_decodeChar_of_decodeFrom {index : ℕ} {b : UInt8} {rest : Bytes} {s : List Char}
    (h : decodeFrom index (b :: rest) = .ok s) : ∃ c rest', decodeChar b rest = .ok (c, rest') := by
  rw [decodeFrom] at h
  split at h
  · cases h
  · cases h
  · next c rest' h' => exact ⟨c, rest', h'⟩

theorem decodeFrom_eq_ok_iff {index : ℕ} {bs : Bytes} {s : List Char} :
    decodeFrom index bs = .ok s ↔ bs = encode s := by
  induction hn : bs.length using Nat.strong_induction_on generalizing index bs s with
  | _ n ih =>
    subst hn
    cases bs with
    | nil =>
      rw [decodeFrom, eq_comm (a := []), encode_eq_nil_iff, eq_comm (a := s)]
      simp
    | cons b rest =>
      constructor
      · intro h
        obtain ⟨c, rest', hd⟩ := exists_decodeChar_of_decodeFrom h
        rw [decodeFrom_cons hd, Except.map_eq_ok_iff] at h
        obtain ⟨t, ht, rfl⟩ := h
        have hlt := Nat.lt_succ_of_le (length_le_of_decodeChar hd)
        rw [encode_cons, ← (ih _ hlt rfl).mp ht]
        exact decodeChar_eq_ok_iff.mp hd
      · intro h
        cases s with
        | nil => cases h
        | cons c t =>
          have hd := decodeChar_eq_ok_iff.mpr (h.trans (encode_cons c t))
          have hlt := Nat.lt_succ_of_le (length_le_of_decodeChar hd)
          rw [decodeFrom_cons hd, (ih _ hlt rfl).mpr rfl]
          rfl

/-- A byte string reads as a text exactly if it is the written form of that text. -/
theorem decode_eq_ok_iff {bs : Bytes} {s : List Char} : decode bs = .ok s ↔ bs = encode s :=
  decodeFrom_eq_ok_iff

theorem decode_encode (s : List Char) : decode (encode s) = .ok s :=
  decode_eq_ok_iff.mpr rfl

theorem encode_injective {s t : List Char} (h : encode s = encode t) : s = t := by
  have := decode_encode s
  rw [h, decode_encode] at this
  cases this; rfl

/-! ## The bytes of strings -/

/-- The library reduces the bits of a lead byte before it adds the mark of the length;
for a scalar value that changes nothing. -/
theorem encodeChar_eq_utf8EncodeChar (c : Char) : encodeChar c = String.utf8EncodeChar c := by
  have hc := scalar_range c
  have hval : c.val.toNat = c.toNat := rfl
  have h₁ : c.toNat < 0x80 ↔ c.toNat ≤ 127 := Nat.lt_succ_iff
  have h₂ : c.toNat < 0x800 ↔ c.toNat ≤ 2047 := Nat.lt_succ_iff
  have h₃ : c.toNat < 0x10000 ↔ c.toNat ≤ 65535 := Nat.lt_succ_iff
  unfold encodeChar continuation String.utf8EncodeChar
  simp only [hval, h₁, h₂, h₃]
  split_ifs with hle₁ hle₂ hle₃
  · rfl
  · have hlead : 0xc0 + c.toNat / 64 = c.toNat / 64 % 32 + 192 := by omega
    rw [hlead, Nat.add_comm 0x80]
  · have hlead : 0xe0 + c.toNat / 4096 = c.toNat / 4096 % 16 + 224 := by omega
    rw [hlead, Nat.add_comm 0x80, Nat.add_comm 0x80]
  · have hlead : 0xf0 + c.toNat / 262144 = c.toNat / 262144 % 8 + 240 := by omega
    rw [hlead, Nat.add_comm 0x80, Nat.add_comm 0x80, Nat.add_comm 0x80]

theorem encode_toList (s : String) : encode s.toList = s.toUTF8.data.toList := by
  rw [String.toUTF8, ← String.utf8Encode_toList, List.utf8Encode, List.toList_data_toByteArray,
    encode, funext encodeChar_eq_utf8EncodeChar]

end OffchainSeal.Utf8
