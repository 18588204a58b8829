import OffchainSeal.Proofs.Cipher.Chaining
import OffchainSeal.Sealing

/-!
# Strict and loose padding

Decryption removes the padding by the last byte alone, so it accepts more cipher texts than
encryption gives: those that encryption gives are the ones whose padding is strict.

* `pad_unpadded_iff`: what was removed is put back exactly if it was a strict padding.
* `decrypt_eq_ok_iff`, `decrypt_eq_padding_iff`, `decrypt_eq_misaligned_iff`: the outcomes of
  decryption.
* `cipher_padding_exact`: encryption and decryption against each other.
-/

namespace OffchainSeal.Cipher

variable {key : CipherKey} {iv : Block} {text cipherText : Bytes}

/-! ## Strict padding -/

/-- The last bytes of the text, as many as the last one names and at most a block of them,
all name that number. -/
structure StrictlyPadded (text : Bytes) : Prop where
  pos : padLength text ≠ 0
  le_length : padLength text ≤ text.length
  le_block : padLength text ≤ blockSize
  uniform : ∀ b ∈ text.drop (text.length - padLength text), b.toNat = padLength text

/-- The text without the bytes that its last one names. -/
def unpadded (text : Bytes) : Bytes :=
  text.take (text.length - padLength text)

theorem strictlyPadded_pad (text : Bytes) : StrictlyPadded (pad text) := by
  have hrange := missing_range text
  refine ⟨?_, ?_, ?_, fun b hb => ?_⟩
  · rw [padLength_pad]
    omega
  · rw [padLength_pad, length_pad]
    omega
  · rw [padLength_pad]
    exact hrange.2
  · rw [padLength_pad, length_pad, Nat.add_sub_cancel, pad_eq, List.drop_left] at hb
    rw [padLength_pad, List.eq_of_mem_replicate hb, toNat_ofNat_missing]

/-- A strict padding of whole blocks is put back. -/
theorem StrictlyPadded.pad_unpadded (h : StrictlyPadded text)
    (hwhole : text.length % blockSize = 0) : pad (unpadded text) = text := by
  have hlen : (unpadded text).length = text.length - padLength text := by
    unfold unpadded
    rw [List.length_take]
    omega
  have hmissing : missing (unpadded text) = padLength text := by
    have hpos := h.pos
    have hle := h.le_length
    have hblock := h.le_block
    unfold missing
    rw [hlen]
    unfold blockSize at hwhole hblock ⊢
    omega
  have htail : text.drop (text.length - padLength text) =
      List.replicate (padLength text) (UInt8.ofNat (padLength text)) := by
    rw [List.eq_replicate_iff, List.length_drop]
    refine ⟨Nat.sub_sub_self h.le_length, fun b hb => ?_⟩
    rw [← h.uniform b hb, UInt8.ofNat_toNat]
  rw [pad_eq, hmissing, ← htail]
  exact List.take_append_drop _ _

/-- What was removed is put back exactly if it was a strict padding. -/
theorem pad_unpadded_iff (hwhole : text.length % blockSize = 0) :
    pad (unpadded text) = text ↔ StrictlyPadded text := by
  constructor
  · intro h
    rw [← h]
    exact strictlyPadded_pad _
  · intro h
    exact h.pad_unpadded hwhole

/-- A padding of two blocks is removed, and not put back. -/
example : unpad (List.replicate 31 0 ++ [32]) = .ok [] ∧
    pad [] ≠ List.replicate 31 0 ++ [32] := by decide

/-! ## The outcomes of decryption -/

/-- The byte string is one or more whole blocks. -/
def Whole (bs : Bytes) : Prop :=
  bs.length ≠ 0 ∧ bs.length % blockSize = 0

theorem whole_encrypt (key : CipherKey) (iv : Block) (text : Bytes) :
    Whole (encrypt key iv text) :=
  ⟨(length_encrypt_pos key iv text).ne', encrypt_whole key iv text⟩

theorem decrypt_of_not_whole (h : ¬ Whole cipherText) :
    decrypt key iv cipherText = .error (.misaligned cipherText.length) := by
  unfold Whole at h
  unfold decrypt
  exact if_pos (by omega)

theorem Whole.decrypt_eq (h : Whole cipherText) :
    decrypt key iv cipherText = (unpad (decryptBlocks key iv cipherText)).mapError .padding :=
  decrypt_of_whole (Nat.pos_of_ne_zero h.1) h.2

theorem decrypt_eq_ok_iff : decrypt key iv cipherText = .ok text ↔
    Whole cipherText ∧ padLength (decryptBlocks key iv cipherText) ≠ 0 ∧
      padLength (decryptBlocks key iv cipherText) ≤ (decryptBlocks key iv cipherText).length ∧
      text = unpadded (decryptBlocks key iv cipherText) := by
  by_cases h : Whole cipherText
  · rw [h.decrypt_eq, Except.mapError_eq_ok_iff, unpad_eq_ok_iff, unpadded]
    exact (and_iff_right h).symm
  · simp [decrypt_of_not_whole h, h]

theorem decrypt_eq_padding_iff {fault : PaddingFault} :
    decrypt key iv cipherText = .error (.padding fault) ↔
      Whole cipherText ∧ (padLength (decryptBlocks key iv cipherText) = 0 ∨
        (decryptBlocks key iv cipherText).length < padLength (decryptBlocks key iv cipherText)) ∧
      fault = ⟨padLength (decryptBlocks key iv cipherText),
        (decryptBlocks key iv cipherText).length⟩ := by
  by_cases h : Whole cipherText
  · rw [h.decrypt_eq, and_iff_right h, ← unpad_eq_error_iff]
    simp
  · simp [decrypt_of_not_whole h, h]

theorem decrypt_eq_misaligned_iff {n : ℕ} :
    decrypt key iv cipherText = .error (.misaligned n) ↔
      ¬ Whole cipherText ∧ n = cipherText.length := by
  by_cases h : Whole cipherText
  · simp [h.decrypt_eq, h]
  · simp [decrypt_of_not_whole h, h, eq_comm]

theorem decrypt_ne_partialBlock : decrypt key iv cipherText ≠ .error .partialBlock := by
  by_cases h : Whole cipherText
  · simp [h.decrypt_eq]
  · simp [decrypt_of_not_whole h]

/-! ## What encryption gives back -/

/-- Encryption gives back the cipher text of what was decrypted exactly if its padding
was strict. -/
theorem encrypt_unpadded_iff (h : cipherText.length % blockSize = 0) :
    encrypt key iv (unpadded (decryptBlocks key iv cipherText)) = cipherText ↔
      StrictlyPadded (decryptBlocks key iv cipherText) := by
  rw [encrypt_eq, encryptBlocks_eq_iff (pad_whole _) h]
  exact pad_unpadded_iff (by rw [length_decryptBlocks h, h])

/-- The cipher texts that encryption gives are those with a strict padding. -/
theorem exists_encrypt_iff : (∃ text, encrypt key iv text = cipherText) ↔
    Whole cipherText ∧ StrictlyPadded (decryptBlocks key iv cipherText) := by
  constructor
  · rintro ⟨text, rfl⟩
    refine ⟨whole_encrypt key iv text, ?_⟩
    rw [encrypt_eq, decryptBlocks_encryptBlocks (pad_whole text)]
    exact strictlyPadded_pad text
  · rintro ⟨hwhole, hstrict⟩
    exact ⟨_, (encrypt_unpadded_iff hwhole.2).mpr hstrict⟩

/-! ## Both directions -/

theorem not_whole_iff {bs : Bytes} : ¬ Whole bs ↔ bs.length = 0 ∨ bs.length % 16 ≠ 0 := by
  unfold Whole blockSize
  omega

theorem decrypt_envelopeFormat_iff {detail : String} :
    (decrypt key iv cipherText).mapError Failure.ofCbc = .error (.envelopeFormat detail) ↔
      (cipherText.length = 0 ∨ cipherText.length % 16 ≠ 0) ∧
        detail = s!"ciphertext length {cipherText.length} is not a positive multiple of 16" := by
  rw [Except.mapError_eq_error_iff, ← not_whole_iff]
  constructor
  · rintro ⟨fault, h, e⟩
    cases fault with
    | misaligned n =>
      obtain ⟨hwhole, rfl⟩ := decrypt_eq_misaligned_iff.mp h
      exact ⟨hwhole, (Failure.envelopeFormat.inj e).symm⟩
    | partialBlock => exact absurd h decrypt_ne_partialBlock
    | padding fault => cases e
  · rintro ⟨hwhole, rfl⟩
    exact ⟨_, decrypt_of_not_whole hwhole, rfl⟩

theorem decrypt_padding_iff {n length : ℕ} :
    (decrypt key iv cipherText).mapError Failure.ofCbc = .error (.padding n length) ↔
      Whole cipherText ∧ (padLength (decryptBlocks key iv cipherText) = 0 ∨
        (decryptBlocks key iv cipherText).length < padLength (decryptBlocks key iv cipherText)) ∧
      n = padLength (decryptBlocks key iv cipherText) ∧
      length = (decryptBlocks key iv cipherText).length := by
  rw [Except.mapError_eq_error_iff]
  constructor
  · rintro ⟨fault, h, e⟩
    cases fault with
    | misaligned n => cases e
    | partialBlock => cases e
    | padding fault =>
      obtain ⟨hwhole, hbad, rfl⟩ := decrypt_eq_padding_iff.mp h
      obtain ⟨rfl, rfl⟩ := Failure.padding.inj e
      exact ⟨hwhole, hbad, rfl, rfl⟩
  · rintro ⟨hwhole, hbad, rfl, rfl⟩
    exact ⟨_, decrypt_eq_padding_iff.mpr ⟨hwhole, hbad, rfl⟩, rfl⟩

/-- Encryption gives one more block than the text fills, and decryption gives the text
back. A cipher text that is not one or more whole blocks has the wrong format. The last byte of
what the others are decrypted to names the bytes to remove: a wrong padding if there are none
or not so many, and else the text is what is in front of them. Such a text is encrypted to the
cipher text again exactly if the removed bytes are at most a block and all name their number;
no other cipher texts come of encryption. -/
theorem cipher_padding_exact (key : CipherKey) (iv : Block) :
    (∀ text, (encrypt key iv text).length = 16 * (text.length / 16 + 1) ∧
        (decrypt key iv (encrypt key iv text)).mapError Failure.ofCbc = .ok text) ∧
      ∀ cipherText,
        let padded := decryptBlocks key iv cipherText
        let result := (decrypt key iv cipherText).mapError Failure.ofCbc
        let misaligned := cipherText.length = 0 ∨ cipherText.length % 16 ≠ 0
        (∀ detail, result = .error (.envelopeFormat detail) ↔ misaligned ∧
          detail = s!"ciphertext length {cipherText.length} is not a positive multiple of 16") ∧
        (∀ n length, result = .error (.padding n length) ↔
          ¬ misaligned ∧ (padLength padded = 0 ∨ padded.length < padLength padded) ∧
            n = padLength padded ∧ length = padded.length) ∧
        (∀ text, result = .ok text ↔
          ¬ misaligned ∧ padLength padded ≠ 0 ∧ padLength padded ≤ padded.length ∧
            text = padded.take (padded.length - padLength padded)) ∧
        (∀ text, result = .ok text → (encrypt key iv text = cipherText ↔
          padLength padded ≤ 16 ∧
            ∀ b ∈ padded.drop (padded.length - padLength padded), b.toNat = padLength padded)) ∧
        ((∃ text, encrypt key iv text = cipherText) ↔ ¬ misaligned ∧ StrictlyPadded padded) := by
  refine ⟨fun text => ⟨?_, ?_⟩, fun cipherText => ?_⟩
  · rw [length_encrypt]
    unfold missing blockSize
    omega
  · rw [decrypt_encrypt]
    rfl
  intro padded result misaligned
  have hwhole : ¬ misaligned ↔ Whole cipherText := (not_congr not_whole_iff.symm).trans not_not
  refine ⟨fun detail => decrypt_envelopeFormat_iff, fun n length => ?_, fun text => ?_,
    fun text h => ?_, ?_⟩
  · rw [hwhole]
    exact decrypt_padding_iff
  · rw [hwhole, Except.mapError_eq_ok_iff]
    exact decrypt_eq_ok_iff
  · obtain ⟨hw, hpos, hle, rfl⟩ := decrypt_eq_ok_iff.mp (Except.mapError_eq_ok_iff.mp h)
    rw [encrypt_unpadded_iff hw.2]
    constructor
    · intro hstrict
      exact ⟨hstrict.le_block, hstrict.uniform⟩
    · rintro ⟨hblock, huniform⟩
      exact ⟨hpos, hle, hblock, huniform⟩
  · rw [hwhole]
    exact exists_encrypt_iff

end OffchainSeal.Cipher
