import OffchainSeal.Bytes.Base58
import OffchainSeal.Proofs.Bytes.Numeral
import OffchainSeal.Proofs.Result

/-!
# Base 58 texts and byte strings

A byte string and its text are the same leading zeros in front of the same number, in base
256 and in base 58, so each determines the other.

* `values_eq_ok_iff`: which texts are rows of digits.
* `decode_eq_ok_iff`: a text is read as a byte string exactly if it is written for it.
-/

namespace OffchainSeal.Base58

/-! ## Digits -/

/-- The digits are read back, and are printed characters of ASCII but not the underscore. -/
theorem digit_table : ∀ v < 58, digitValue? (digit v) = some v ∧
    (32 < (digit v).toNat ∧ (digit v).toNat < 128) ∧ (digit v).toNat ≠ 95 := by
  decide

theorem digit_of_digitValue? {c : Char} {v : ℕ} (h : digitValue? c = some v) :
    v < 58 ∧ digit v = c := by
  obtain ⟨hv, hc, -⟩ := List.findIdx?_eq_some_iff_getElem.mp h
  have hlen : v < 58 := hv
  refine ⟨hlen, ?_⟩
  unfold digit
  rw [List.getD_eq_getElem _ _ hv]
  exact of_decide_eq_true hc

/-- A text is read as digits exactly if it is written with them. -/
theorem values_eq_ok_iff {index : ℕ} {s : List Char} {vs : List ℕ} :
    values index s = .ok vs ↔ s = vs.map digit ∧ ∀ v ∈ vs, v < 58 := by
  induction s generalizing index vs with
  | nil =>
    rw [values, Except.ok.injEq]
    constructor
    · rintro rfl
      simp
    · rintro ⟨h, -⟩
      exact (List.map_eq_nil_iff.mp h.symm).symm
  | cons c s ih =>
    rw [values]
    constructor
    · intro h
      split_ifs at h with hascii
      rcases hc : digitValue? c with _ | v
      · rw [hc] at h
        cases h
      · rw [hc] at h
        obtain ⟨ws, hws, rfl⟩ := Except.map_eq_ok_iff.mp h
        obtain ⟨hv, rfl⟩ := digit_of_digitValue? hc
        obtain ⟨rfl, hlt⟩ := ih.mp hws
        exact ⟨rfl, List.forall_mem_cons.mpr ⟨hv, hlt⟩⟩
    · rintro ⟨h, hlt⟩
      cases vs with
      | nil => cases h
      | cons v vs =>
        obtain ⟨rfl, rfl⟩ := List.cons.inj h
        obtain ⟨hv, hlt⟩ := List.forall_mem_cons.mp hlt
        obtain ⟨hvalue, hascii, -⟩ := digit_table v hv
        rw [if_neg (Nat.not_le.mpr hascii.2), hvalue]
        exact Except.map_eq_ok_iff.mpr ⟨vs, ih.mpr ⟨rfl, hlt⟩, rfl⟩

/-! ## Numbers -/

theorem digits_eq (n : ℕ) : digits n = Nat.digits 58 n := by
  induction n using Nat.strong_induction_on with
  | _ n ih =>
    rw [digits]
    split_ifs with h
    · rw [h, Nat.digits_zero]
    · have hpos := Nat.pos_of_ne_zero h
      rw [ih (n / 58) (by omega), ← Nat.digits_def' (by norm_num) hpos]

theorem byteDigits_eq (n : ℕ) : byteDigits n = (Nat.digits 256 n).map UInt8.ofNat := by
  induction n using Nat.strong_induction_on with
  | _ n ih =>
    rw [byteDigits]
    split_ifs with h
    · rw [h, Nat.digits_zero, List.map_nil]
    · have hpos := Nat.pos_of_ne_zero h
      have hlow : UInt8.ofNat n = UInt8.ofNat (n % 256) := by
        apply UInt8.toNat_inj.mp
        rw [UInt8.toNat_ofNat', UInt8.toNat_ofNat', Nat.mod_mod]
      rw [ih (n / 256) (by omega), hlow, ← List.map_cons, ← Nat.digits_def' (by norm_num) hpos]

/-- The bytes of a byte string as digits in base 256. -/
def byteValues (bs : Bytes) : List ℕ :=
  bs.map UInt8.toNat

theorem byteValues_lt (bs : Bytes) : ∀ d ∈ byteValues bs, d < 256 := by
  intro d hd
  obtain ⟨b, -, rfl⟩ := List.mem_map.mp hd
  exact b.toNat_lt

theorem map_ofNat_byteValues (bs : Bytes) : (byteValues bs).map UInt8.ofNat = bs := by
  unfold byteValues
  rw [List.map_map]
  exact List.map_id'' (fun _ => UInt8.ofNat_toNat) bs

theorem byteValues_map_ofNat {ds : List ℕ} (h : ∀ d ∈ ds, d < 256) :
    byteValues (ds.map UInt8.ofNat) = ds := by
  unfold byteValues
  rw [List.map_map]
  conv_rhs => rw [← List.map_id ds]
  apply List.map_congr_left
  intro d hd
  exact UInt8.toNat_ofNat_of_lt' (h d hd)

theorem leadingZeros_byteValues (bs : Bytes) :
    Numeral.leadingZeros (byteValues bs) = (bs.takeWhile (· = 0)).length := by
  unfold Numeral.leadingZeros byteValues
  rw [List.takeWhile_map, List.length_map]
  congr 2
  funext b
  simp [← UInt8.toNat_inj]

/-! ## Texts -/

/-- A text is the digits in base 58 of what its bytes are in base 256. -/
theorem encode_eq (bs : Bytes) :
    encode bs = (Numeral.digits 58 (Numeral.leadingZeros (byteValues bs))
      (Numeral.value 256 (byteValues bs))).map digit := by
  unfold encode Numeral.digits
  rw [leadingZeros_byteValues, Bytes.toNat_eq_value, digits_eq, List.map_append,
    List.map_replicate]
  rfl

theorem decode_map_digit {vs : List ℕ} (h : ∀ v ∈ vs, v < 58) :
    decode (vs.map digit) = .ok ((Numeral.digits 256 (Numeral.leadingZeros vs)
      (Numeral.value 58 vs)).map UInt8.ofNat) := by
  have hbytes : (Numeral.digits 256 (Numeral.leadingZeros vs) (Numeral.value 58 vs)).map
      UInt8.ofNat = List.replicate (vs.takeWhile (· = 0)).length 0 ++
        (byteDigits (vs.foldl (fun n v => 58 * n + v) 0)).reverse := by
    unfold Numeral.digits
    rw [byteDigits_eq, List.map_append, List.map_replicate, List.map_reverse]
    rfl
  rw [hbytes]
  unfold decode
  rw [values_eq_ok_iff.mpr ⟨rfl, h⟩, Except.ok_bind]
  rfl

theorem mem_digits_lt {b z n : ℕ} (hb : 1 < b) : ∀ d ∈ Numeral.digits b z n, d < b := by
  intro d hd
  rcases List.mem_append.mp hd with hd | hd
  · rw [List.eq_of_mem_replicate hd]
    omega
  · exact Nat.digits_lt_base hb (List.mem_reverse.mp hd)

theorem decode_encode (bs : Bytes) : decode (encode bs) = .ok bs := by
  rw [encode_eq, decode_map_digit (mem_digits_lt (by norm_num)), Numeral.leadingZeros_digits,
    Numeral.value_digits, Numeral.digits_leadingZeros_value (by norm_num) (byteValues_lt bs),
    map_ofNat_byteValues]

/-- Reading and writing are inverse to each other. -/
theorem decode_eq_ok_iff {s : List Char} {bs : Bytes} : decode s = .ok bs ↔ s = encode bs := by
  constructor
  · intro h
    obtain ⟨vs, hvs, -⟩ := Except.bind_eq_ok_iff.mp h
    obtain ⟨rfl, hlt⟩ := values_eq_ok_iff.mp hvs
    rw [decode_map_digit hlt, Except.ok.injEq] at h
    rw [← h, encode_eq, byteValues_map_ofNat (mem_digits_lt (by norm_num)),
      Numeral.leadingZeros_digits, Numeral.value_digits,
      Numeral.digits_leadingZeros_value (by norm_num) hlt]
  · rintro rfl
    exact decode_encode bs

theorem encode_injective {bs bs' : Bytes} (h : encode bs = encode bs') : bs = bs' := by
  have := decode_encode bs
  rw [h, decode_encode, Except.ok.injEq] at this
  exact this.symm

/-- A text is written with the digits alone. -/
theorem exists_digit_of_mem_encode {bs : Bytes} {c : Char} (h : c ∈ encode bs) :
    ∃ v < 58, c = digit v := by
  rw [encode_eq] at h
  obtain ⟨v, hv, rfl⟩ := List.mem_map.mp h
  exact ⟨v, mem_digits_lt (by norm_num) v hv, rfl⟩

end OffchainSeal.Base58
