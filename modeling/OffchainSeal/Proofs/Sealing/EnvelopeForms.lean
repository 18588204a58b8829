import OffchainSeal.Proofs.Sealing.Envelope
import OffchainSeal.Proofs.Text.Blank
import OffchainSeal.Sealing

/-!
# The two forms of an envelope

An envelope is written as bytes and as a hexadecimal text. No length is written: the three
parts are found again from the length of the whole alone. The bytes have one spelling; of the
spellings of the text the one in lower case and without blanks is written.

* `frame_eq_iff`: framed bytes determine their parts.
* `parse_eq_error_iff`, `parse_frame_iff`: what parsing refuses, and what it makes of
  framed parts.
* `envelopeFormat_of_not_ok`: how a refusal is reported.
* `ofHex_toHex`, `toHex_of_ofHex`: writing and reading the text.
* `forms_exact`: both forms, in both directions.
-/

namespace OffchainSeal

open Cipher Digest

/-! ## Framed parts -/

section Frame

variable {iv iv' : Block} {cipherText cipherText' : Bytes} {tag tag' : Tag}

theorem length_frame : (frame iv cipherText tag).length = cipherText.length + 48 := by
  unfold frame
  rw [List.length_append, List.length_append, Vector.length_toList, Vector.length_toList]
  omega

/-- The first and the last part have a fixed length, so the parts are determined. -/
theorem frame_eq_iff : frame iv cipherText tag = frame iv' cipherText' tag' ↔
    iv = iv' ∧ cipherText = cipherText' ∧ tag = tag' := by
  constructor
  · intro h
    unfold frame at h
    have htagLength : tag.toList.length = tag'.toList.length := by
      rw [Vector.length_toList, Vector.length_toList]
    obtain ⟨hcovered, htag⟩ := List.append_inj' h htagLength
    have hivLength : iv.toList.length = iv'.toList.length := by
      rw [Vector.length_toList, Vector.length_toList]
    obtain ⟨hiv, hcipher⟩ := List.append_inj hcovered hivLength
    exact ⟨Vector.toList_inj.mp hiv, hcipher, Vector.toList_inj.mp htag⟩
  · rintro ⟨rfl, rfl, rfl⟩
    rfl

end Frame

namespace Envelope

variable {bs : Bytes} {text : List Char} {e : Envelope}

/-! ## Parsing -/

theorem length_eq (e : Envelope) : e.length = e.toBytes.length := by
  rw [length_toBytes]
  rfl

/-- Parsing refuses a length alone: too few bytes, or a middle part not in whole blocks. -/
theorem parse_eq_error_iff {fault : Fault} : parse bs = .error fault ↔
    bs.length < 64 ∧ fault = .tooShort bs.length ∨
      64 ≤ bs.length ∧ bs.length % 16 ≠ 0 ∧ fault = .misaligned (bs.length - 48) := by
  have hmiddle : ((bs.drop blockSize).take ((bs.drop blockSize).length - tagLength)).length =
      bs.length - 48 := by
    unfold blockSize tagLength
    rw [List.length_take, List.length_drop]
    omega
  have hwhole : 64 ≤ bs.length → ((bs.length - 48) % blockSize = 0 ↔ bs.length % 16 = 0) := by
    unfold blockSize
    omega
  unfold parse
  split_ifs with hshort
  · have hlt : bs.length < 64 := hshort
    simp [hlt, eq_comm]
  · have hle : 64 ≤ bs.length := Nat.le_of_not_lt hshort
    dsimp only
    simp only [hmiddle]
    split_ifs with h
    · simp [hle, (hwhole hle).mp h]
    · simp [hle, (hwhole hle).not.mp h, eq_comm]

theorem exists_parse_iff :
    (∃ e, parse bs = .ok e) ↔ 64 ≤ bs.length ∧ bs.length % 16 = 0 := by
  simp only [parse_eq_ok_iff]
  exact exists_toBytes_iff

/-- Whatever is not read as an envelope has the wrong format. -/
theorem envelopeFormat_of_not_ok {outcome : Except Fault Envelope}
    (h : ¬ ∃ e, outcome = .ok e) :
    ∃ detail, outcome.mapError Failure.ofEnvelope = .error (.envelopeFormat detail) := by
  rw [not_exists, ← Except.exists_error_iff] at h
  obtain ⟨fault, hfault⟩ := h
  exact ⟨fault.message, Except.mapError_eq_error_iff.mpr ⟨fault, hfault, rfl⟩⟩

/-- Framed parts are parsed into themselves and nothing else. -/
theorem parse_frame_iff {iv : Block} {cipherText : Bytes} {tag : Tag} :
    parse (frame iv cipherText tag) = .ok e ↔
      e.iv = iv ∧ e.cipherText = cipherText ∧ e.tag = tag :=
  parse_eq_ok_iff.trans frame_eq_iff

/-- What is said of bytes that are refused. -/
theorem parse_failure_iff {failure : Failure} :
    (parse bs).mapError .ofEnvelope = .error failure ↔
      bs.length < 64 ∧
          failure = .envelopeFormat s!"envelope is {bs.length} bytes, need at least 64" ∨
        64 ≤ bs.length ∧ bs.length % 16 ≠ 0 ∧ failure = .envelopeFormat
          s!"ciphertext region of {bs.length - 48} bytes is not a multiple of 16" := by
  rw [Except.mapError_eq_error_iff]
  simp only [parse_eq_error_iff]
  constructor
  · rintro ⟨fault, ⟨hshort, rfl⟩ | ⟨hlong, hmod, rfl⟩, rfl⟩
    · exact .inl ⟨hshort, rfl⟩
    · exact .inr ⟨hlong, hmod, rfl⟩
  · rintro (⟨hshort, rfl⟩ | ⟨hlong, hmod, rfl⟩)
    · exact ⟨_, .inl ⟨hshort, rfl⟩, rfl⟩
    · exact ⟨_, .inr ⟨hlong, hmod, rfl⟩, rfl⟩

/-- The envelope is the byte string, cut behind its first 16 and before its last 32 bytes
into parts of which the middle one is one or more whole blocks. -/
structure IsCutOf (e : Envelope) (bs : Bytes) : Prop where
  iv : e.iv.toList = bs.take 16
  cipherText : e.cipherText = (bs.drop 16).take (bs.length - 48)
  tag : e.tag.toList = bs.drop (bs.length - 32)
  positive : 0 < e.cipherText.length
  whole : e.cipherText.length % 16 = 0
  toBytes : e.toBytes = bs
  length : e.length = bs.length
  authenticated : e.authenticated = bs.take (bs.length - 32)

theorem isCutOf_toBytes (e : Envelope) : e.IsCutOf e.toBytes where
  iv := by rw [toBytes_eq, List.take_left' Vector.length_toList]
  cipherText := e.cipherText_eq.symm
  tag := e.drop_toBytes.symm
  positive := e.nonempty
  whole := e.whole
  toBytes := rfl
  length := e.length_eq
  authenticated := e.take_toBytes.symm

/-- Parsing cuts. -/
theorem parse_eq_ok_iff_isCutOf : parse bs = .ok e ↔ e.IsCutOf bs := by
  rw [parse_eq_ok_iff]
  constructor
  · rintro rfl
    exact e.isCutOf_toBytes
  · exact IsCutOf.toBytes

/-! ## Texts -/

/-- What is written is read as the envelope again. -/
theorem ofHex_toHex (e : Envelope) : ofHex e.toHex.toList = .ok e := by
  have hd : Hex.Denotes e.toHex.toList e.toBytes := Hex.denotes_encodeText e.toBytes
  have htrim : Text.trim e.toHex.toList = e.toHex.toList := by
    have h := Text.trim_append_of_forall (List.forall_mem_nil _) (List.forall_mem_nil _)
      hd.not_blank
    rwa [List.nil_append, List.append_nil] at h
  rw [ofHex_eq_ok_iff, htrim]
  exact hd

/-- A text that was read is written in lower case and without the blanks around it. -/
theorem toHex_of_ofHex (h : ofHex text = .ok e) :
    e.toHex.toList = (Text.trim text).map Char.toLower :=
  (ofHex_eq_ok_iff.mp h).encodeText_eq

/-- A text is read as an envelope if it is an even number of digits, blanks around it aside,
and the bytes that these stand for are parsed. -/
theorem ofHex_eq_ok_iff_digits : ofHex text = .ok e ↔
    (Text.trim text).length % 2 = 0 ∧ (∀ c ∈ Text.trim text, ∃ n, Hex.IsDigit c n) ∧
      ∃ bs, Hex.Denotes (Text.trim text) bs ∧ parse bs = .ok e := by
  rw [ofHex_eq_ok_iff]
  constructor
  · intro h
    obtain ⟨heven, hdigits⟩ := Hex.exists_denotes_iff.mp ⟨_, h⟩
    exact ⟨heven, hdigits, e.toBytes, h, parse_eq_ok_iff.mpr rfl⟩
  · rintro ⟨-, -, bs, h, hparse⟩
    rwa [toBytes_of_parse hparse]

/-! ## Both forms -/

/-- Bytes are parsed exactly if they are 64 or more in rows of sixteen: then into the parts
they were framed of, which give them back, and else they have the wrong format. Framed parts
are parsed into themselves if the middle one is one or more whole blocks, and not otherwise. A
text is read exactly if it is an even number of digits of either case, blanks around it aside,
whose bytes are parsed; what is then written is this text in lower case, and it is read as the
same envelope. -/
theorem forms_exact (bs : Bytes) (iv : Block) (cipherText : Bytes) (tag : Tag) (text : String) :
    let framed := frame iv cipherText tag
    let whole := 0 < cipherText.length ∧ cipherText.length % 16 = 0
    let trimmed := Text.trim text.toList
    (((∃ e, parse bs = .ok e) ↔ 64 ≤ bs.length ∧ bs.length % 16 = 0) ∧
        (∀ e, parse bs = .ok e ↔ e.IsCutOf bs) ∧
        ∀ failure, (parse bs).mapError Failure.ofEnvelope = .error failure ↔
          bs.length < 64 ∧
              failure = .envelopeFormat s!"envelope is {bs.length} bytes, need at least 64" ∨
            64 ≤ bs.length ∧ bs.length % 16 ≠ 0 ∧ failure = .envelopeFormat
              s!"ciphertext region of {bs.length - 48} bytes is not a multiple of 16") ∧
      ((∀ e, parse framed = .ok e ↔ e.iv = iv ∧ e.cipherText = cipherText ∧ e.tag = tag) ∧
        ((∃ e, parse framed = .ok e) ↔ whole) ∧
        (¬ whole → ∃ detail,
          (parse framed).mapError Failure.ofEnvelope = .error (.envelopeFormat detail))) ∧
      (∀ e, ofHex text.toList = .ok e ↔ trimmed.length % 2 = 0 ∧
        (∀ c ∈ trimmed, ∃ n, Hex.IsDigit c n) ∧
        ∃ bs, Hex.Denotes trimmed bs ∧ parse bs = .ok e) ∧
      (∀ e, ofHex text.toList = .ok e →
        e.toHex.toList = trimmed.map Char.toLower ∧ ofHex e.toHex.toList = .ok e) ∧
      ((∀ e, ofHex text.toList ≠ .ok e) → ∃ detail,
        (ofHex text.toList).mapError Failure.ofEnvelope = .error (.envelopeFormat detail)) := by
  intro framed whole trimmed
  have hframed : (∃ e, parse framed = .ok e) ↔ whole := by
    rw [exists_parse_iff, length_frame]
    omega
  refine ⟨⟨exists_parse_iff, fun e => parse_eq_ok_iff_isCutOf, fun failure => parse_failure_iff⟩,
    ⟨fun e => parse_frame_iff, hframed, fun hwhole => ?_⟩, fun e => ofHex_eq_ok_iff_digits,
    fun e h => ⟨toHex_of_ofHex h, e.ofHex_toHex⟩, fun h => ?_⟩
  · exact envelopeFormat_of_not_ok (hframed.not.mpr hwhole)
  · exact envelopeFormat_of_not_ok (not_exists.mpr h)

end Envelope
end OffchainSeal
