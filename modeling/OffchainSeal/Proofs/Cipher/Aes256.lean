import OffchainSeal.Cipher.Aes256
import OffchainSeal.Proofs.Cipher.ByteField

/-!
# Decryption undoes encryption

Each step of a round has its inverse, and decryption takes them in the opposite
order.

* `unsubstitute_substitute`, `unshiftRows_shiftRows`, `unmixColumns_mixColumns`:
  the steps.
* `decryptWith_encryptWith`: the cipher, under any round keys.
-/

namespace OffchainSeal.Cipher.Aes256

open ByteField

theorem get_ofFn {α : Type} {n : ℕ} (f : Fin n → α) (i : Fin n) :
    (Vector.ofFn f).get i = f i := by
  rw [Vector.get_eq_getElem, Vector.getElem_ofFn]

/-! ## Substitution -/

theorem substitute_eq (b : UInt8) : substitute b = affine (inverse b) := by
  unfold substitute substitutes
  rw [get_ofFn]
  exact congrArg (affine ∘ inverse) UInt8.ofNat_toNat

theorem unsubstitute_eq (b : UInt8) : unsubstitute b = inverse (affineInverse b) := by
  unfold unsubstitute unsubstitutes
  rw [get_ofFn]
  exact congrArg (inverse ∘ affineInverse) UInt8.ofNat_toNat

theorem affineInverse_affine (b : UInt8) : affineInverse (affine b) = b := by
  revert b
  exact forall_byte (by decide +kernel)

theorem unsubstitute_substitute (b : UInt8) : unsubstitute (substitute b) = b := by
  rw [substitute_eq, unsubstitute_eq, affineInverse_affine, inverse_inverse]

theorem map_unsubstitute_map_substitute (s : Block) :
    (s.map substitute).map unsubstitute = s := by
  rw [Vector.map_map]
  have h : unsubstitute ∘ substitute = id := funext unsubstitute_substitute
  rw [h, Vector.map_id]

/-! ## Rows -/

theorem unshiftRows_shiftRows (s : Block) : unshiftRows (shiftRows s) = s := by
  apply Vector.ext
  intro i hi
  unfold unshiftRows shiftRows
  rw [Vector.getElem_ofFn, get_ofFn, Vector.get_eq_getElem]
  congr 1
  show ((i + 12 * (i % 4)) % 16 + 4 * ((i + 12 * (i % 4)) % 16 % 4)) % 16 = i
  omega

/-! ## Columns -/

/-- The place `k` rows below place `i`, in the same column. -/
def place (i k : ℕ) : Fin 16 :=
  ⟨(4 * (i / 4) + (i + k) % 4) % 16, Nat.mod_lt _ (by decide)⟩

theorem place_place (i j k : ℕ) : place (place i j) k = place i (j + k) := by
  apply Fin.ext
  show (4 * ((4 * (i / 4) + (i + j) % 4) % 16 / 4) + ((4 * (i / 4) + (i + j) % 4) % 16 + k) % 4)
    % 16 = (4 * (i / 4) + (i + (j + k)) % 4) % 16
  omega

theorem place_add_four (i k : ℕ) : place i (k + 4) = place i k := by
  apply Fin.ext
  show (4 * (i / 4) + (i + (k + 4)) % 4) % 16 = (4 * (i / 4) + (i + k) % 4) % 16
  omega

theorem get_place_zero (s : Block) (i : ℕ) (hi : i < 16) : s.get (place i 0) = s[i] := by
  rw [Vector.get_eq_getElem]
  congr 1
  show (4 * (i / 4) + (i + 0) % 4) % 16 = i
  omega

theorem get_mixWith (row : UInt8 × UInt8 × UInt8 × UInt8) (s : Block) (i : Fin 16) :
    (mixWith row s).get i = mul (s.get (place i 0)) row.1 ^^^ mul (s.get (place i 1)) row.2.1 ^^^
      mul (s.get (place i 2)) row.2.2.1 ^^^ mul (s.get (place i 3)) row.2.2.2 :=
  get_ofFn _ i

/-- The product of the two matrices of the mixing steps, entry by entry, on numbers. -/
theorem matrix_entriesNat : ∀ b < 256,
    mulNat (mulNat b 2) 14 ^^^ mulNat (mulNat b 1) 11 ^^^ mulNat (mulNat b 1) 13 ^^^
        mulNat (mulNat b 3) 9 = b ∧
      mulNat (mulNat b 3) 14 ^^^ mulNat (mulNat b 2) 11 ^^^ mulNat (mulNat b 1) 13 ^^^
        mulNat (mulNat b 1) 9 = 0 ∧
      mulNat (mulNat b 1) 14 ^^^ mulNat (mulNat b 3) 11 ^^^ mulNat (mulNat b 2) 13 ^^^
        mulNat (mulNat b 1) 9 = 0 ∧
      mulNat (mulNat b 1) 14 ^^^ mulNat (mulNat b 1) 11 ^^^ mulNat (mulNat b 3) 13 ^^^
        mulNat (mulNat b 2) 9 = 0 := by
  decide +kernel

/-- What of a byte comes back to its own row after both mixing steps, and to the rows one,
two and three below. -/
theorem matrix_entries (b : UInt8) :
    mul (mul b 2) 14 ^^^ mul (mul b 1) 11 ^^^ mul (mul b 1) 13 ^^^ mul (mul b 3) 9 = b ∧
      mul (mul b 3) 14 ^^^ mul (mul b 2) 11 ^^^ mul (mul b 1) 13 ^^^ mul (mul b 1) 9 = 0 ∧
      mul (mul b 1) 14 ^^^ mul (mul b 3) 11 ^^^ mul (mul b 2) 13 ^^^ mul (mul b 1) 9 = 0 ∧
      mul (mul b 1) 14 ^^^ mul (mul b 1) 11 ^^^ mul (mul b 3) 13 ^^^ mul (mul b 2) 9 = 0 := by
  simp only [← UInt8.toNat_inj, UInt8.toNat_xor, toNat_mul]
  exact matrix_entriesNat b.toNat (UInt8.toNat_lt b)

/-- One entry of a column that was mixed and unmixed. -/
theorem unmix_mix (a b c d : UInt8) :
    mul (mul a 2 ^^^ mul b 3 ^^^ mul c 1 ^^^ mul d 1) 14 ^^^
      mul (mul b 2 ^^^ mul c 3 ^^^ mul d 1 ^^^ mul a 1) 11 ^^^
      mul (mul c 2 ^^^ mul d 3 ^^^ mul a 1 ^^^ mul b 1) 13 ^^^
      mul (mul d 2 ^^^ mul a 3 ^^^ mul b 1 ^^^ mul c 1) 9 = a := by
  obtain ⟨ha, -, -, -⟩ := matrix_entries a
  obtain ⟨-, hb, -, -⟩ := matrix_entries b
  obtain ⟨-, -, hc, -⟩ := matrix_entries c
  obtain ⟨-, -, -, hd⟩ := matrix_entries d
  simp only [mul_xor_left]
  calc _ = (mul (mul a 2) 14 ^^^ mul (mul a 1) 11 ^^^ mul (mul a 1) 13 ^^^ mul (mul a 3) 9) ^^^
        (mul (mul b 3) 14 ^^^ mul (mul b 2) 11 ^^^ mul (mul b 1) 13 ^^^ mul (mul b 1) 9) ^^^
        (mul (mul c 1) 14 ^^^ mul (mul c 3) 11 ^^^ mul (mul c 2) 13 ^^^ mul (mul c 1) 9) ^^^
        (mul (mul d 1) 14 ^^^ mul (mul d 1) 11 ^^^ mul (mul d 3) 13 ^^^ mul (mul d 2) 9) := by
        ac_rfl
    _ = a := by
        rw [ha, hb, hc, hd, UInt8.xor_zero, UInt8.xor_zero, UInt8.xor_zero]

theorem unmixColumns_mixColumns (s : Block) : unmixColumns (mixColumns s) = s := by
  apply Vector.ext
  intro i hi
  rw [← get_place_zero s i hi, ← get_place_zero (unmixColumns _) i hi]
  unfold unmixColumns mixColumns
  simp only [get_mixWith, place_place, place_add_four]
  exact unmix_mix (s.get (place i 0)) (s.get (place i 1)) (s.get (place i 2)) (s.get (place i 3))

/-! ## Rounds -/

theorem add_add (s k : Block) : add (add s k) k = s := by
  apply Vector.ext
  intro i hi
  unfold add
  rw [Vector.getElem_zipWith, Vector.getElem_zipWith, UInt8.xor_assoc, UInt8.xor_self,
    UInt8.xor_zero]

/-- The rounds are undone from the last to the first. -/
theorem unrounds_rounds : ∀ (ks : List Block) (s : Block), unrounds (rounds s ks) ks = s
  | [], _ => rfl
  | [k], s => by
    unfold rounds unrounds
    rw [add_add, unshiftRows_shiftRows, map_unsubstitute_map_substitute]
  | k :: k' :: ks, s => by
    unfold rounds unrounds
    rw [unrounds_rounds (k' :: ks), add_add, unmixColumns_mixColumns, unshiftRows_shiftRows,
      map_unsubstitute_map_substitute]

/-- Decryption undoes encryption, whatever the round keys are. -/
theorem decryptWith_encryptWith (ks : List Block) (s : Block) :
    decryptWith ks (encryptWith ks s) = s := by
  cases ks with
  | nil => rfl
  | cons k ks =>
    show add (unrounds (rounds (add s k) ks) ks) k = s
    rw [unrounds_rounds, add_add]

/-- There are finitely many blocks, so what is undone on one side is undone on both. -/
theorem encryptWith_decryptWith (ks : List Block) (s : Block) :
    encryptWith ks (decryptWith ks s) = s := by
  have : Finite Block := by
    refine Finite.of_injective (fun (b : Block) (i : Fin 16) => b.get i) fun b b' h => ?_
    exact Vector.ext fun i hi => congrFun h ⟨i, hi⟩
  have hleft : Function.LeftInverse (decryptWith ks) (encryptWith ks) := decryptWith_encryptWith ks
  have honto : Function.Surjective (encryptWith ks) :=
    Finite.surjective_of_injective hleft.injective
  exact hleft.rightInverse_of_surjective honto s

end OffchainSeal.Cipher.Aes256
