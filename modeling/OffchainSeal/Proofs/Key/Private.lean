import OffchainSeal.Key.Private
import OffchainSeal.Proofs.Key.Checked
import OffchainSeal.Sealing

/-!
# The texts of a private key

A private key has three texts: the typed one and the wallet import text with and without
the flag. Each of them is read as the key, and nothing else is.

* `PrivateKey.ofBytes_eq_ok_iff`, `PrivateKey.ofTyped_eq_ok_iff`, `PrivateKey.ofWif_eq_ok_iff`:
  what is read as a key in each form.
* `private_key_texts`: what is read as a key in either form, and what is refused.
-/

namespace OffchainSeal

open Curve Digest

namespace PrivateKey

/-! ## Bytes -/

theorem length_toBytes (k : PrivateKey) : k.toBytes.length = 32 :=
  Bytes.length_ofNat 32 k.scalar

theorem toNat_toBytes (k : PrivateKey) : Bytes.toNat k.toBytes = k.scalar := by
  have horder : groupOrder < 256 ^ 32 := by
    unfold groupOrder
    norm_num
  exact Bytes.toNat_ofNat (lt_trans k.lt_order horder)

theorem scalar_injective {k k' : PrivateKey} (h : k.scalar = k'.scalar) : k = k' := by
  cases k
  cases k'
  cases h
  rfl

theorem ofBytes_eq_ok_iff {bs : Bytes} {k : PrivateKey} : ofBytes bs = .ok k ↔ bs = k.toBytes := by
  unfold ofBytes
  constructor
  · intro h
    split_ifs at h with hlen
    rw [not_not] at hlen
    dsimp only at h
    split_ifs at h with hrange
    rw [Except.ok.injEq] at h
    rw [← h]
    show bs = Bytes.ofNat 32 (Bytes.toNat bs)
    rw [← hlen, Bytes.ofNat_toNat]
  · intro h
    have hlen : ¬ k.toBytes.length ≠ 32 := fun h => h k.length_toBytes
    have hrange : 0 < Bytes.toNat k.toBytes ∧ Bytes.toNat k.toBytes < groupOrder := by
      rw [toNat_toBytes]
      exact ⟨k.positive, k.lt_order⟩
    rw [h, if_neg hlen]
    dsimp only
    rw [dif_pos hrange, Except.ok.injEq]
    apply scalar_injective
    dsimp only
    exact k.toNat_toBytes

/-! ## The typed form -/

theorem ofTyped_eq_ok_iff {text : List Char} {k : PrivateKey} :
    ofTyped text = .ok k ↔ text = k.toTyped := by
  unfold ofTyped toTyped
  rcases htag : Text.after? typedTag text with _ | body
  · constructor
    · intro h
      cases h
    · intro h
      rw [Text.after?_eq_some_iff.mpr h] at htag
      cases htag
  · rw [Text.after?_eq_some_iff] at htag
    rw [htag, List.append_right_inj]
    show (Key.decodeChecked body 32 Key.curveTag >>= ofBytes) = .ok k ↔ _
    rw [Except.bind_eq_ok_iff]
    constructor
    · rintro ⟨bs, hbs, h⟩
      rw [ofBytes_eq_ok_iff.mp h] at hbs
      exact (Key.decodeChecked_eq_ok_iff.mp hbs).2
    · intro h
      exact ⟨k.toBytes, Key.decodeChecked_eq_ok_iff.mpr ⟨k.length_toBytes, h⟩,
        ofBytes_eq_ok_iff.mpr rfl⟩

/-! ## The wallet import format -/

/-- The bytes of the wallet import text. -/
def wifBytes (k : PrivateKey) (flagged : Bool) : Bytes :=
  k.wifBody flagged ++ doubleSha256Checksum (k.wifBody flagged)

theorem length_wifBody (k : PrivateKey) (flagged : Bool) :
    (k.wifBody flagged).length = 33 + flagged.toNat := by
  cases flagged <;> simp [wifBody, length_toBytes]

theorem length_wifBytes (k : PrivateKey) (flagged : Bool) :
    (k.wifBytes flagged).length = 37 + flagged.toNat := by
  unfold wifBytes
  rw [List.length_append, length_wifBody, length_doubleSha256Checksum]
  omega

theorem wifBodyLength?_wifBytes (k : PrivateKey) (flagged : Bool) :
    wifBodyLength? (k.wifBytes flagged) = some (k.wifBody flagged).length := by
  have hlen := k.length_wifBytes flagged
  have hbody := k.length_wifBody flagged
  unfold wifBodyLength?
  cases flagged with
  | false =>
    rw [Bool.toNat_false] at hlen hbody
    rw [if_pos hlen, hbody]
  | true =>
    rw [Bool.toNat_true] at hlen hbody
    have hflag : (k.wifBytes true)[33]? = some wifFlag := by
      have hfront : (wifVersion :: k.toBytes).length = 33 := by
        rw [List.length_cons, length_toBytes]
      unfold wifBytes wifBody
      rw [if_pos rfl, List.append_assoc, List.getElem?_append_right (by omega), hfront]
      rfl
    rw [if_neg (by omega), if_pos ⟨hlen, hflag⟩, hbody]

theorem headD_wifBytes (k : PrivateKey) (flagged : Bool) :
    (k.wifBytes flagged).headD 0 = wifVersion := rfl

theorem take_drop_wifBytes (k : PrivateKey) (flagged : Bool) :
    ((k.wifBytes flagged).drop 1).take 32 = k.toBytes := by
  show (k.toBytes ++ (if flagged then [wifFlag] else []) ++ _).take 32 = k.toBytes
  rw [List.append_assoc]
  exact List.take_left' k.length_toBytes

/-- The bytes before the checksum are told by their number, the version and the scalar. -/
theorem take_eq_wifBody {raw : Bytes} {n : ℕ} {k : PrivateKey}
    (hn : wifBodyLength? raw = some n) (hversion : raw.headD 0 = wifVersion)
    (hscalar : (raw.drop 1).take 32 = k.toBytes) :
    ∃ flagged, raw.take n = k.wifBody flagged := by
  unfold wifBodyLength? at hn
  cases raw with
  | nil => cases hn
  | cons version rest =>
    have hv : version = wifVersion := hversion
    have hs : rest.take 32 = k.toBytes := hscalar
    split_ifs at hn with hplain hflagged
    · refine ⟨false, ?_⟩
      rw [← Option.some.inj hn, List.take_succ_cons, hv, hs]
      simp [wifBody]
    · refine ⟨true, ?_⟩
      have hflag : rest[32]? = some wifFlag := hflagged.2
      rw [← Option.some.inj hn, List.take_succ_cons, List.take_add_one, hv, hs, hflag]
      simp [wifBody]

theorem ofWif_eq_ok_iff {text : List Char} {k : PrivateKey} :
    ofWif text = .ok k ↔ ∃ flagged, text = k.toWifWith flagged := by
  unfold ofWif
  rw [Except.bind_eq_ok_iff]
  constructor
  · rintro ⟨raw, hraw, h⟩
    rw [Except.mapError_eq_ok_iff, Base58.decode_eq_ok_iff] at hraw
    rcases hn : wifBodyLength? raw with _ | n
    · rw [hn] at h
      cases h
    · rw [hn] at h
      dsimp only at h
      split_ifs at h with hversion hsum
      rw [not_not] at hversion hsum
      obtain ⟨flagged, hbody⟩ := take_eq_wifBody hn hversion (ofBytes_eq_ok_iff.mp h)
      refine ⟨flagged, ?_⟩
      show text = Base58.encode (k.wifBytes flagged)
      unfold wifBytes
      rw [hraw, ← hbody, hsum, List.take_append_drop]
  · rintro ⟨flagged, rfl⟩
    refine ⟨k.wifBytes flagged, ?_, ?_⟩
    · rw [Except.mapError_eq_ok_iff]
      exact Base58.decode_encode _
    · rw [wifBodyLength?_wifBytes]
      dsimp only
      rw [if_neg (not_not.mpr (k.headD_wifBytes flagged)), take_drop_wifBytes]
      unfold wifBytes
      rw [List.take_left, List.drop_left, if_neg (not_not.mpr rfl)]
      exact ofBytes_eq_ok_iff.mpr rfl

/-! ## Either form -/

/-- The texts of a key: the wallet import text, the typed text, and the wallet import text
with the flag, whose checksum begins the digest of the digest of what is before it. -/
def texts (k : PrivateKey) : List (List Char) :=
  let body := 0x80 :: k.toBytes ++ [0x01]
  [k.toWif, k.toTyped, Base58.encode (body ++ (sha256 (sha256 body).toList).toList.take 4)]

theorem texts_eq (k : PrivateKey) :
    k.texts = [k.toWifWith false, k.toTyped, k.toWifWith true] := by
  unfold texts toWif
  rw [show k.toWifWith true = Base58.encode (k.wifBody true ++
    doubleSha256Checksum (k.wifBody true)) from rfl]
  unfold doubleSha256Checksum
  rfl

theorem mem_texts_iff {k : PrivateKey} {text : List Char} :
    text ∈ k.texts ↔ text = k.toTyped ∨ ∃ flagged, text = k.toWifWith flagged := by
  rw [texts_eq, Bool.exists_bool, List.mem_cons, List.mem_pair]
  exact or_left_comm

theorem not_blank_of_mem_texts {k : PrivateKey} {text : List Char} (h : text ∈ k.texts) :
    ∀ c ∈ text, Text.isBlank c = false := by
  intro c hc
  rcases mem_texts_iff.mp h with rfl | ⟨flagged, rfl⟩
  · rcases List.mem_append.mp hc with hc | hc
    · have htag : typedTag.all (!Text.isBlank ·) = true := by decide
      simpa using List.all_eq_true.mp htag c hc
    · exact Base58.not_blank_of_mem_encode hc
  · exact Base58.not_blank_of_mem_encode hc

/-- The typed tag is no beginning of a wallet import text. -/
theorem typedTag_not_prefix (k : PrivateKey) (flagged : Bool) :
    ¬ typedTag <+: k.toWifWith flagged := by
  intro h
  have hmem : '_' ∈ typedTag := by decide
  exact Base58.underscore_notMem_encode _ (h.subset hmem)

theorem nodup_texts (k : PrivateKey) : k.texts.Nodup := by
  have htyped : ∀ flagged, k.toWifWith flagged ≠ k.toTyped := by
    intro flagged h
    exact k.typedTag_not_prefix flagged (h ▸ List.prefix_append _ _)
  have hwif : k.toWifWith false ≠ k.toWifWith true := by
    intro h
    have hbytes : k.wifBytes false = k.wifBytes true := Base58.encode_injective h
    have hlen := congrArg List.length hbytes
    rw [length_wifBytes, length_wifBytes] at hlen
    cases hlen
  rw [texts_eq]
  simp [htyped, hwif, Ne.symm (htyped true)]

theorem decode_eq_ok_iff {text : List Char} {k : PrivateKey} :
    decode text = .ok k ↔ Text.trim text ∈ k.texts := by
  rw [mem_texts_iff]
  unfold decode
  dsimp only
  split_ifs with htag
  · rw [ofTyped_eq_ok_iff]
    refine (or_iff_left ?_).symm
    rintro ⟨flagged, h⟩
    exact k.typedTag_not_prefix flagged (h ▸ List.isPrefixOf_iff_prefix.mp htag)
  · rw [ofWif_eq_ok_iff]
    refine (or_iff_right ?_).symm
    intro h
    exact htag (List.isPrefixOf_iff_prefix.mpr (h ▸ List.prefix_append _ _))

end PrivateKey

/-- A string is read as a private key exactly if it is one of the three texts of that key,
blanks around it aside; all others are refused as malformed. The three are different, and
each of them is read as the key. -/
theorem private_key_texts :
    (∀ (s : String) (k : PrivateKey),
        PrivateKey.ofString s = .ok k ↔ Text.trim s.toList ∈ k.texts) ∧
      (∀ s : String, (∀ k : PrivateKey, Text.trim s.toList ∉ k.texts) →
        ∃ detail, (PrivateKey.ofString s).mapError Failure.ofKey = .error (.keyFormat detail)) ∧
      ∀ k : PrivateKey, k.texts.Nodup ∧
        ∀ front text back : List Char, text ∈ k.texts → (∀ c ∈ front, Text.isBlank c = true) →
          (∀ c ∈ back, Text.isBlank c = true) →
            PrivateKey.ofString (String.ofList (front ++ text ++ back)) = .ok k := by
  refine ⟨fun s k => PrivateKey.decode_eq_ok_iff, ?_, fun k => ⟨k.nodup_texts, ?_⟩⟩
  · intro s hnone
    rcases hs : PrivateKey.ofString s with fault | k
    · exact ⟨fault.message, rfl⟩
    · exact absurd (PrivateKey.decode_eq_ok_iff.mp hs) (hnone k)
  · intro front text back htext hfront hback
    unfold PrivateKey.ofString
    rw [String.toList_ofList, PrivateKey.decode_eq_ok_iff,
      Text.trim_append_of_forall hfront hback (PrivateKey.not_blank_of_mem_texts htext)]
    exact htext

end OffchainSeal
