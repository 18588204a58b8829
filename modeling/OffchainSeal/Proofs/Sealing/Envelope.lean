import OffchainSeal.Envelope
import OffchainSeal.Proofs.Bytes.Hex
import OffchainSeal.Proofs.Cipher.Chaining

/-!
# Envelopes and their bytes

* `Envelope.parse_eq_ok_iff`: an envelope is parsed from its own bytes and no others.
* `Envelope.exists_toBytes_iff`: which byte strings are the bytes of an envelope.
* `Envelope.ofHex_eq_ok_iff`: the same for hexadecimal texts.
-/

namespace OffchainSeal.Envelope

open Cipher

theorem length_toBytes (e : Envelope) : e.toBytes.length = 16 + e.cipherText.length + 32 := by
  unfold toBytes frame
  rw [List.length_append, List.length_append, Vector.length_toList, Vector.length_toList]

theorem toBytes_range (e : Envelope) : 64 ≤ e.toBytes.length ∧ e.toBytes.length % 16 = 0 := by
  have hw : e.cipherText.length % 16 = 0 := e.whole
  have hn := e.nonempty
  rw [length_toBytes]
  omega

/-! ## The parts of the bytes -/

section Parts

variable (e : Envelope)

theorem authenticated_append_tag : e.toBytes = e.authenticated ++ e.tag.toList := rfl

theorem toBytes_eq : e.toBytes = e.iv.toList ++ (e.cipherText ++ e.tag.toList) := by
  unfold toBytes frame
  rw [List.append_assoc]

theorem length_authenticated : e.authenticated.length = e.toBytes.length - 32 := by
  rw [authenticated_append_tag, List.length_append, Vector.length_toList, Nat.add_sub_cancel]

/-- The tag covers all bytes before it. -/
theorem take_toBytes : e.toBytes.take (e.toBytes.length - 32) = e.authenticated := by
  rw [← length_authenticated, authenticated_append_tag]
  exact List.take_left

theorem drop_toBytes : e.toBytes.drop (e.toBytes.length - 32) = e.tag.toList := by
  rw [← length_authenticated, authenticated_append_tag]
  exact List.drop_left

theorem toVector_toBytes : Bytes.toVector 16 e.toBytes = e.iv := by
  rw [toBytes_eq]
  exact Bytes.toVector_append _ _

theorem cipherText_eq : (e.toBytes.drop 16).take (e.toBytes.length - 48) = e.cipherText := by
  rw [length_toBytes, toBytes_eq, List.drop_left' (Vector.length_toList)]
  exact List.take_left' (by omega)

theorem length_cipherText : e.cipherText.length = e.toBytes.length - 48 := by
  rw [length_toBytes]
  omega

end Parts

/-! ## Parsing -/

theorem toBytes_of_parse {bs : Bytes} {e : Envelope} (h : parse bs = .ok e) : e.toBytes = bs := by
  unfold parse at h
  split_ifs at h with short
  dsimp only at h
  split_ifs at h with whole
  rw [Except.ok.injEq] at h
  have hlen : 64 ≤ bs.length := Nat.le_of_not_lt short
  have hiv : (Bytes.toVector 16 bs).toList = bs.take 16 := by
    have htake : (bs.take 16).length = 16 := by
      rw [List.length_take]
      omega
    have happ : Bytes.toVector 16 bs = Bytes.toVector 16 (bs.take 16) := by
      have hfirst := Bytes.toList_toVector htake
      conv_lhs => rw [← List.take_append_drop 16 bs, ← hfirst, Bytes.toVector_append]
    rw [happ, Bytes.toList_toVector htake]
  have htag : (Bytes.toVector 32 ((bs.drop 16).drop ((bs.drop 16).length - 32))).toList =
      (bs.drop 16).drop ((bs.drop 16).length - 32) := by
    apply Bytes.toList_toVector
    rw [List.length_drop, List.length_drop]
    omega
  rw [← h]
  show (Bytes.toVector 16 bs).toList ++ (bs.drop 16).take ((bs.drop 16).length - 32) ++
    (Bytes.toVector 32 ((bs.drop 16).drop ((bs.drop 16).length - 32))).toList = bs
  rw [hiv, htag, List.append_assoc, List.take_append_drop, List.take_append_drop]

theorem toBytes_injective {e e' : Envelope} (h : e.toBytes = e'.toBytes) : e = e' := by
  have hiv : e.iv = e'.iv := by rw [← toVector_toBytes, h, toVector_toBytes]
  have htext : e.cipherText = e'.cipherText := by rw [← cipherText_eq, h, cipherText_eq]
  have htag : e.tag = e'.tag := by
    apply Vector.toList_inj.mp
    rw [← drop_toBytes, h, drop_toBytes]
  cases e
  cases e'
  simp only [mk.injEq]
  exact ⟨hiv, htext, htag⟩

theorem exists_parse {bs : Bytes} (hlen : 64 ≤ bs.length) (hmod : bs.length % 16 = 0) :
    ∃ e, parse bs = .ok e := by
  unfold parse
  rw [dif_neg (show ¬ bs.length < minLength from Nat.not_lt.mpr hlen)]
  have hwhole : ((bs.drop blockSize).take ((bs.drop blockSize).length - tagLength)).length %
      blockSize = 0 := by
    unfold blockSize tagLength
    rw [List.length_take, List.length_drop]
    omega
  exact ⟨_, dif_pos hwhole⟩

/-- An envelope is parsed from its own bytes and no others. -/
theorem parse_eq_ok_iff {bs : Bytes} {e : Envelope} : parse bs = .ok e ↔ e.toBytes = bs := by
  constructor
  · exact toBytes_of_parse
  · rintro rfl
    obtain ⟨e', h⟩ := exists_parse e.toBytes_range.1 e.toBytes_range.2
    rw [h, toBytes_injective (toBytes_of_parse h)]

/-- The bytes of envelopes are those of at least 64 bytes in rows of sixteen. -/
theorem exists_toBytes_iff {bs : Bytes} :
    (∃ e : Envelope, e.toBytes = bs) ↔ 64 ≤ bs.length ∧ bs.length % 16 = 0 := by
  constructor
  · rintro ⟨e, rfl⟩
    exact e.toBytes_range
  · rintro ⟨hlen, hmod⟩
    obtain ⟨e, h⟩ := exists_parse hlen hmod
    exact ⟨e, toBytes_of_parse h⟩

/-- A text reads as an envelope if it stands for its bytes, blanks around it aside. -/
theorem ofHex_eq_ok_iff {text : List Char} {e : Envelope} :
    ofHex text = .ok e ↔ Hex.Denotes (Text.trim text) e.toBytes := by
  unfold ofHex
  rw [Except.bind_eq_ok_iff]
  constructor
  · rintro ⟨bs, h, hp⟩
    rw [toBytes_of_parse hp]
    exact Hex.decode_eq_ok_iff.mp (Except.mapError_eq_ok_iff.mp h)
  · intro h
    exact ⟨e.toBytes, Except.mapError_eq_ok_iff.mpr (Hex.decode_eq_ok_iff.mpr h),
      parse_eq_ok_iff.mpr rfl⟩

end OffchainSeal.Envelope
