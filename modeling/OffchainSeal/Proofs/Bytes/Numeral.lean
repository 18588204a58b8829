import Mathlib
import OffchainSeal.Bytes.Basic

/-!
# Digits and numbers

A row of digits, the most significant one first, is told by the number of zeros that it
begins with and by the number that it stands for.

* `Numeral.digits_leadingZeros_value`: the digits are found again from the two.
* `Numeral.leadingZeros_digits`, `Numeral.value_digits`: and the two from the digits.
* `Bytes.toNat_ofNat`, `Bytes.ofNat_toNat`: byte strings of one length as numbers.
-/

namespace OffchainSeal

namespace Numeral

/-- The number with the digits `ds` in base `b`. -/
def value (b : ℕ) (ds : List ℕ) : ℕ :=
  ds.foldl (fun n d => b * n + d) 0

/-- The number of zeros at the front. -/
def leadingZeros (ds : List ℕ) : ℕ :=
  (ds.takeWhile (· = 0)).length

/-- The digits of `n` in base `b` after `z` zeros. -/
def digits (b z n : ℕ) : List ℕ :=
  List.replicate z 0 ++ (Nat.digits b n).reverse

theorem value_eq_ofDigits (b : ℕ) (ds : List ℕ) : value b ds = Nat.ofDigits b ds.reverse := by
  unfold value
  rw [Nat.ofDigits_eq_foldr, List.foldr_reverse]
  congr 1
  funext n d
  exact Nat.add_comm _ _

theorem value_replicate_append (b z : ℕ) (ds : List ℕ) :
    value b (List.replicate z 0 ++ ds) = value b ds := by
  rw [value_eq_ofDigits, value_eq_ofDigits, List.reverse_append, List.reverse_replicate,
    Nat.ofDigits_append_replicate_zero]

theorem value_digits (b z n : ℕ) : value b (digits b z n) = n := by
  unfold digits
  rw [value_replicate_append, value_eq_ofDigits, List.reverse_reverse, Nat.ofDigits_digits]

/-- The digits of a number do not begin with a zero. -/
theorem head_reverse_digits (b n : ℕ) : ∀ d ∈ (Nat.digits b n).reverse.head?, d ≠ 0 := by
  intro d hd
  rw [List.head?_reverse, Option.mem_def] at hd
  have hne : Nat.digits b n ≠ [] := by
    rintro h
    rw [h] at hd
    cases hd
  rw [List.getLast?_eq_getLast_of_ne_nil hne, Option.some.injEq] at hd
  rw [← hd]
  exact Nat.getLast_digit_ne_zero b (Nat.digits_ne_nil_iff_ne_zero.mp hne)

theorem leadingZeros_replicate_append {z : ℕ} {ds : List ℕ} (h : ∀ d ∈ ds.head?, d ≠ 0) :
    leadingZeros (List.replicate z 0 ++ ds) = z := by
  unfold leadingZeros
  have hzeros : ∀ d ∈ List.replicate z 0, decide (d = 0) = true := by
    intro d hd
    rw [List.eq_of_mem_replicate hd]
    rfl
  have hrest : ds.takeWhile (· = 0) = [] := by
    cases ds with
    | nil => rfl
    | cons d ds => exact List.takeWhile_cons_of_neg (by simpa using h d rfl)
  rw [List.takeWhile_append_of_pos hzeros, hrest, List.append_nil, List.length_replicate]

theorem leadingZeros_digits (b z n : ℕ) : leadingZeros (digits b z n) = z :=
  leadingZeros_replicate_append (head_reverse_digits b n)

/-- A row is its leading zeros and a rest that does not begin with one. -/
theorem exists_eq_replicate_append (ds : List ℕ) :
    ∃ rest, ds = List.replicate (leadingZeros ds) 0 ++ rest ∧ ∀ d ∈ rest.head?, d ≠ 0 := by
  refine ⟨ds.dropWhile (· = 0), ?_, ?_⟩
  · have hzeros : ds.takeWhile (· = 0) = List.replicate (leadingZeros ds) 0 := by
      refine List.eq_replicate_iff.mpr ⟨rfl, fun d hd => ?_⟩
      simpa using List.mem_takeWhile_imp hd
    rw [← hzeros, List.takeWhile_append_dropWhile]
  · intro d hd
    have := List.head?_dropWhile_not (fun d : ℕ => decide (d = 0)) ds
    rw [Option.mem_def.mp hd] at this
    simpa using this

/-- The digits are determined by their leading zeros and their number. -/
theorem digits_leadingZeros_value {b : ℕ} (hb : 1 < b) {ds : List ℕ} (h : ∀ d ∈ ds, d < b) :
    digits b (leadingZeros ds) (value b ds) = ds := by
  obtain ⟨rest, hds, hhead⟩ := exists_eq_replicate_append ds
  have hlt : ∀ d ∈ rest.reverse, d < b := by
    intro d hd
    apply h
    rw [hds]
    exact List.mem_append_right _ (List.mem_reverse.mp hd)
  have hlast : ∀ hne : rest.reverse ≠ [], rest.reverse.getLast hne ≠ 0 := by
    intro hne
    apply hhead
    rw [Option.mem_def, ← List.getLast?_reverse]
    exact List.getLast?_eq_getLast_of_ne_nil hne
  have hvalue : value b ds = Nat.ofDigits b rest.reverse := by
    rw [hds, value_replicate_append, value_eq_ofDigits]
  unfold digits
  rw [hvalue, Nat.digits_ofDigits b hb _ hlt hlast, List.reverse_reverse]
  exact hds.symm

end Numeral

/-! ## Byte strings as numbers -/

namespace Bytes

theorem toNat_eq_value (bs : Bytes) : toNat bs = Numeral.value 256 (bs.map UInt8.toNat) := by
  unfold toNat Numeral.value
  rw [List.foldl_map]

theorem toNat_append_singleton (bs : Bytes) (b : UInt8) :
    toNat (bs ++ [b]) = 256 * toNat bs + b.toNat := by
  unfold toNat
  rw [List.foldl_append]
  rfl

theorem toNat_ofNat {len n : ℕ} (h : n < 256 ^ len) : toNat (ofNat len n) = n := by
  induction len generalizing n with
  | zero =>
    rw [pow_zero, Nat.lt_one_iff] at h
    rw [h]
    rfl
  | succ len ih =>
    have hdiv : n / 256 < 256 ^ len := by
      rw [Nat.div_lt_iff_lt_mul (by norm_num), ← pow_succ]
      exact h
    rw [ofNat, toNat_append_singleton, ih hdiv, UInt8.toNat_ofNat']
    exact Nat.div_add_mod n 256

theorem ofNat_toNat (bs : Bytes) : ofNat bs.length (toNat bs) = bs := by
  induction bs using List.reverseRecOn with
  | nil => rfl
  | append_singleton bs b ih =>
    have hb := b.toNat_lt
    have hdiv : (256 * toNat bs + b.toNat) / 256 = toNat bs := by omega
    have hlast : UInt8.ofNat (256 * toNat bs + b.toNat) = b := by
      apply UInt8.toNat_inj.mp
      rw [UInt8.toNat_ofNat']
      omega
    rw [List.length_append, List.length_singleton, ofNat, toNat_append_singleton, hdiv, ih, hlast]

end Bytes
end OffchainSeal
