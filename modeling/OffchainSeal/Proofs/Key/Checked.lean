import OffchainSeal.Key.Checked
import OffchainSeal.Proofs.Bytes.Base58
import OffchainSeal.Proofs.Text.Blank

/-!
# Bodies and their checksums

* `decodeChecked_eq_ok_iff`: a text is read as a body exactly if it is written for it.
* `encodeChecked_injective`: a text is written for one body of a length.
-/

namespace OffchainSeal

namespace Digest

theorem length_doubleSha256Checksum (data : Bytes) : (doubleSha256Checksum data).length = 4 := by
  unfold doubleSha256Checksum
  rw [List.length_take, Vector.length_toList]
  rfl

theorem length_ripemd160Checksum (data suffix : Bytes) :
    (ripemd160Checksum data suffix).length = 4 := by
  unfold ripemd160Checksum
  rw [List.length_take, Vector.length_toList]
  rfl

end Digest

namespace Key

open Digest

variable {length : ℕ} {suffix body : Bytes}

theorem splitChecked_eq_ok_iff {raw : Bytes} :
    splitChecked raw length suffix = .ok body ↔
      body.length = length ∧ raw = body ++ ripemd160Checksum body suffix := by
  unfold splitChecked
  constructor
  · intro h
    split_ifs at h with hlen hsum
    rw [Except.ok.injEq] at h
    rw [not_not] at hlen hsum
    have hbody : body.length = length := by
      rw [← h, List.length_take]
      omega
    refine ⟨hbody, ?_⟩
    rw [← h, hsum, List.take_append_drop]
  · rintro ⟨hbody, rfl⟩
    have hlen : (body ++ ripemd160Checksum body suffix).length = length + 4 := by
      rw [List.length_append, length_ripemd160Checksum, hbody]
    rw [if_neg (not_not.mpr hlen), List.take_left' hbody, List.drop_left' hbody,
      if_neg (not_not.mpr rfl)]

/-- A text is read as a body of some length exactly if it is written for that body. -/
theorem decodeChecked_eq_ok_iff {text : List Char} :
    decodeChecked text length suffix = .ok body ↔
      body.length = length ∧ text = encodeChecked body suffix := by
  unfold decodeChecked encodeChecked
  rw [Except.bind_eq_ok_iff]
  constructor
  · rintro ⟨raw, hraw, h⟩
    rw [Except.mapError_eq_ok_iff, Base58.decode_eq_ok_iff] at hraw
    obtain ⟨hlen, rfl⟩ := splitChecked_eq_ok_iff.mp h
    exact ⟨hlen, hraw⟩
  · rintro ⟨hlen, rfl⟩
    refine ⟨body ++ ripemd160Checksum body suffix, ?_, splitChecked_eq_ok_iff.mpr ⟨hlen, rfl⟩⟩
    rw [Except.mapError_eq_ok_iff]
    exact Base58.decode_encode _

/-- Bodies of one length have different texts. -/
theorem encodeChecked_injective {body' : Bytes} (h : body.length = length)
    (h' : body'.length = length) (heq : encodeChecked body suffix = encodeChecked body' suffix) :
    body = body' := by
  have hbody : decodeChecked (encodeChecked body suffix) length suffix = .ok body :=
    decodeChecked_eq_ok_iff.mpr ⟨h, rfl⟩
  rw [decodeChecked_eq_ok_iff.mpr ⟨h', heq⟩, Except.ok.injEq] at hbody
  exact hbody.symm

end Key

/-! ## Characters of key texts -/

namespace Base58

theorem not_blank_of_mem_encode {bs : Bytes} {c : Char} (h : c ∈ encode bs) :
    Text.isBlank c = false := by
  obtain ⟨v, hv, rfl⟩ := exists_digit_of_mem_encode h
  obtain ⟨-, hascii, -⟩ := digit_table v hv
  exact Text.not_blank_of_ascii hascii.1 hascii.2

/-- The tags of keys hold a character that is no digit. -/
theorem underscore_notMem_encode (bs : Bytes) : '_' ∉ encode bs := by
  intro h
  obtain ⟨v, hv, hdigit⟩ := exists_digit_of_mem_encode h
  obtain ⟨-, -, hne⟩ := digit_table v hv
  rw [← hdigit] at hne
  exact hne rfl

end Base58
end OffchainSeal
