import OffchainSeal.Bytes.Hex
import OffchainSeal.Proofs.Result
import OffchainSeal.Proofs.Utf8
import OffchainSeal.Text.Blank

/-!
# Hexadecimal texts

`Hex.Denotes` says over characters which bytes a hexadecimal text stands for.

* `decode_eq_ok_iff`: reading accepts exactly the texts that stand for bytes, and
  gives these bytes.
* `exists_denotes_iff`: these are the texts of digits of even length.
* `denotes_encodeText`, `Denotes.toUpper`: what is written stands for the bytes,
  also after some of its letters are turned into upper case.
* `Denotes.encodeText_eq`: a text with its letters in lower case is what is written for
  the bytes it stands for.
-/

namespace OffchainSeal.Hex

/-- The character is the hexadecimal digit of `n`, in either case. -/
def IsDigit (c : Char) (n : ℕ) : Prop :=
  "0123456789abcdef".toList[n]? = some c ∨ "0123456789ABCDEF".toList[n]? = some c

instance (c : Char) (n : ℕ) : Decidable (IsDigit c n) :=
  inferInstanceAs (Decidable (_ ∨ _))

/-- The characters are two digits for each byte, the high half first. -/
inductive Denotes : List Char → Bytes → Prop
  | nil : Denotes [] []
  | cons {hi lo : Char} {h l : ℕ} {cs : List Char} {bs : Bytes} :
      IsDigit hi h → IsDigit lo l → Denotes cs bs →
        Denotes (hi :: lo :: cs) (UInt8.ofNat (16 * h + l) :: bs)

/-! ## Digits -/

theorem IsDigit.lt {c : Char} {n : ℕ} (h : IsDigit c n) : n < 16 := by
  rcases h with h | h
  · exact (List.getElem?_eq_some_iff.mp h).1
  · exact (List.getElem?_eq_some_iff.mp h).1

theorem IsDigit.toNat_lt {c : Char} {n : ℕ} (h : IsDigit c n) : c.toNat < 128 := by
  have hn := h.lt
  rcases h with h | h <;> interval_cases n <;> cases h <;> decide

theorem lt_of_digitValue? {b : UInt8} {n : ℕ} (h : digitValue? b = some n) :
    b.toNat < 128 ∧ n < 16 := by
  unfold digitValue? at h
  simp only [UInt8.le_iff_toNat_le, UInt8.reduceToNat] at h
  split_ifs at h <;> cases h <;> omega

theorem isDigit_table : ∀ k < 128, ∀ n < 16,
    IsDigit (Char.ofNat k) n ↔ digitValue? (UInt8.ofNat k) = some n := by
  decide +kernel

theorem isDigit_iff {c : Char} {n : ℕ} (hc : c.toNat < 128) :
    IsDigit c n ↔ digitValue? (UInt8.ofNat c.toNat) = some n := by
  constructor
  · intro h
    rw [← isDigit_table c.toNat hc n h.lt, Char.ofNat_toNat]
    exact h
  · intro h
    rw [← Char.ofNat_toNat c, isDigit_table c.toNat hc n (lt_of_digitValue? h).2]
    exact h

/-- A digit has one value. -/
theorem IsDigit.unique {c : Char} {m n : ℕ} (h : IsDigit c m) (h' : IsDigit c n) : m = n := by
  have hc := h.toNat_lt
  rw [isDigit_iff hc] at h h'
  exact Option.some.inj (h.symm.trans h')

theorem isDigit_digit {n : ℕ} (h : n < 16) : IsDigit (Char.ofNat (digit n).toNat) n := by
  interval_cases n <;> decide

theorem IsDigit.toUpper {c : Char} {n : ℕ} (h : IsDigit c n) : IsDigit c.toUpper n := by
  have table : ∀ k < 128, ∀ n < 16, IsDigit (Char.ofNat k) n →
      IsDigit (Char.ofNat k).toUpper n := by
    decide +kernel
  have hc := h.toNat_lt
  have hn := h.lt
  rw [← Char.ofNat_toNat c] at h ⊢
  exact table c.toNat hc n hn h

/-- The digit that is written is the one that was read, in lower case. -/
theorem IsDigit.toLower_eq {c : Char} {n : ℕ} (h : IsDigit c n) :
    c.toLower = Char.ofNat (digit n).toNat := by
  have hn := h.lt
  rcases h with h | h <;> interval_cases n <;> cases h <;> decide

theorem IsDigit.not_blank {c : Char} {n : ℕ} (h : IsDigit c n) : Text.isBlank c = false := by
  have hn := h.lt
  rcases h with h | h <;> interval_cases n <;> cases h <;> decide

/-! ## Texts -/

theorem Denotes.length_eq {cs : List Char} {bs : Bytes} (h : Denotes cs bs) :
    cs.length = 2 * bs.length := by
  induction h with
  | nil => rfl
  | cons _ _ _ ih =>
    simp only [List.length_cons, ih]
    omega

theorem Denotes.isDigit {cs : List Char} {bs : Bytes} (h : Denotes cs bs) :
    ∀ c ∈ cs, ∃ n, IsDigit c n := by
  induction h with
  | nil => simp
  | @cons hi lo h l cs bs hhi hlo _ ih =>
    intro c hc
    rcases List.mem_cons.mp hc with rfl | hc
    · exact ⟨h, hhi⟩
    · rcases List.mem_cons.mp hc with rfl | hc
      · exact ⟨l, hlo⟩
      · exact ih c hc

theorem Denotes.not_blank {cs : List Char} {bs : Bytes} (h : Denotes cs bs) :
    ∀ c ∈ cs, Text.isBlank c = false := by
  intro c hc
  obtain ⟨n, hn⟩ := h.isDigit c hc
  exact hn.not_blank

/-- A text stands for one byte string at most. -/
theorem Denotes.unique {cs : List Char} {bs bs' : Bytes} (h : Denotes cs bs)
    (h' : Denotes cs bs') : bs = bs' := by
  induction h generalizing bs' with
  | nil => cases h'; rfl
  | cons hhi hlo _ ih =>
    cases h' with
    | cons hhi' hlo' h' => rw [hhi.unique hhi', hlo.unique hlo', ih h']

/-- The texts that stand for bytes are those of digits of even length. -/
theorem exists_denotes_iff : ∀ {cs : List Char},
    (∃ bs, Denotes cs bs) ↔ cs.length % 2 = 0 ∧ ∀ c ∈ cs, ∃ n, IsDigit c n
  | [] => ⟨fun _ => by simp, fun _ => ⟨[], .nil⟩⟩
  | [c] => by
    constructor
    · rintro ⟨bs, h⟩
      cases h
    · rintro ⟨h, -⟩
      rw [List.length_singleton] at h
      exact absurd h (by decide)
  | hi :: lo :: cs => by
    constructor
    · rintro ⟨bs, h⟩
      exact ⟨by rw [h.length_eq]; omega, h.isDigit⟩
    · rintro ⟨hlen, hd⟩
      simp only [List.length_cons] at hlen
      obtain ⟨h, hhi⟩ := hd hi (by simp)
      obtain ⟨l, hlo⟩ := hd lo (by simp)
      obtain ⟨bs, hbs⟩ := exists_denotes_iff.mpr
        ⟨by omega, fun c hc => hd c (List.mem_cons_of_mem _ (List.mem_cons_of_mem _ hc))⟩
      exact ⟨_, .cons hhi hlo hbs⟩

/-- Letters in upper case stand for the same bytes. -/
theorem Denotes.toUpper {cs cs' : List Char} {bs : Bytes} (h : Denotes cs bs)
    (e : List.Forall₂ (fun c c' => c' = c ∨ c' = c.toUpper) cs cs') : Denotes cs' bs := by
  have digit : ∀ {c c' : Char} {n : ℕ}, IsDigit c n → (c' = c ∨ c' = c.toUpper) →
      IsDigit c' n := by
    rintro c c' n hc (rfl | rfl)
    · exact hc
    · exact hc.toUpper
  induction h generalizing cs' with
  | nil => cases e; exact .nil
  | cons hhi hlo _ ih =>
    cases e with
    | cons ehi e =>
      cases e with
      | cons elo e => exact .cons (digit hhi ehi) (digit hlo elo) (ih e)

/-! ## Reading and writing -/

theorem decodeFrom_cons_eq_ok_iff {index : ℕ} {hi lo : UInt8} {rest bs : Bytes} :
    decodeFrom index (hi :: lo :: rest) = .ok bs ↔
      ∃ h l tl, digitValue? hi = some h ∧ digitValue? lo = some l ∧
        decodeFrom (index + 2) rest = .ok tl ∧ bs = UInt8.ofNat (16 * h + l) :: tl := by
  rw [decodeFrom]
  rcases digitValue? hi with _ | h
  · simp
  · rcases digitValue? lo with _ | l
    · simp
    · change (decodeFrom (index + 2) rest >>= fun tl => .ok (UInt8.ofNat (16 * h + l) :: tl)) =
        .ok bs ↔ _
      rw [Except.bind_eq_ok_iff]
      constructor
      · rintro ⟨tl, ht, e⟩
        cases e
        exact ⟨h, l, tl, rfl, rfl, ht, rfl⟩
      · rintro ⟨_, _, tl, hh, hl, ht, rfl⟩
        cases hh
        cases hl
        exact ⟨tl, ht, rfl⟩

theorem even_of_decodeFrom : ∀ {index : ℕ} {text bs : Bytes},
    decodeFrom index text = .ok bs → text.length % 2 = 0
  | _, [], _, _ => rfl
  | _, [_], _, h => by cases h
  | _, _ :: _ :: rest, _, h => by
    obtain ⟨_, _, _, -, -, h, -⟩ := decodeFrom_cons_eq_ok_iff.mp h
    have := even_of_decodeFrom h
    simp only [List.length_cons]
    omega

theorem encodeChar_of_lt {c : Char} (h : c.toNat < 128) :
    Utf8.encodeChar c = [UInt8.ofNat c.toNat] := by
  have := Utf8.encodeChar_one h
  rwa [Char.ofNat_toNat] at this

/-- The bytes of other characters are no digits. -/
theorem encodeChar_of_ge {c : Char} (h : 128 ≤ c.toNat) :
    ∃ b tl, Utf8.encodeChar c = b :: tl ∧ digitValue? b = none := by
  have none_of : ∀ n, 128 ≤ n → n < 256 → digitValue? (UInt8.ofNat n) = none := by
    intro n hn hn'
    rcases hd : digitValue? (UInt8.ofNat n) with _ | d
    · rfl
    · have := (lt_of_digitValue? hd).1
      rw [Utf8.toNat_ofNat_of_lt hn'] at this
      omega
  have hc := Utf8.scalar_range c
  unfold Utf8.encodeChar
  simp only
  split_ifs
  · omega
  · exact ⟨_, _, rfl, none_of _ (by omega) (by omega)⟩
  · exact ⟨_, _, rfl, none_of _ (by omega) (by omega)⟩
  · exact ⟨_, _, rfl, none_of _ (by omega) (by omega)⟩

theorem digit_of_decodeFrom : ∀ {index : ℕ} {text bs : Bytes},
    decodeFrom index text = .ok bs → ∀ b ∈ text, ∃ n, digitValue? b = some n
  | _, [], _, _ => by simp
  | _, [_], _, h => by cases h
  | _, hi :: lo :: rest, _, h => by
    obtain ⟨n, m, _, hhi, hlo, h, -⟩ := decodeFrom_cons_eq_ok_iff.mp h
    intro b hb
    rcases List.mem_cons.mp hb with rfl | hb
    · exact ⟨n, hhi⟩
    · rcases List.mem_cons.mp hb with rfl | hb
      · exact ⟨m, hlo⟩
      · exact digit_of_decodeFrom h b hb

/-- Only characters of seven bits are read. -/
theorem lt_of_decodeFrom {index : ℕ} {cs : List Char} {bs : Bytes}
    (h : decodeFrom index (Utf8.encode cs) = .ok bs) : ∀ c ∈ cs, c.toNat < 128 := by
  intro c hc
  by_contra hcon
  obtain ⟨b, tl, e, hb⟩ := encodeChar_of_ge (Nat.le_of_not_lt hcon)
  have hmem : b ∈ Utf8.encode cs := by
    refine List.mem_flatMap.mpr ⟨c, hc, ?_⟩
    rw [e]
    exact List.mem_cons_self
  obtain ⟨n, hn⟩ := digit_of_decodeFrom h b hmem
  rw [hb] at hn
  cases hn

theorem decodeFrom_encode_iff : ∀ {index : ℕ} {cs : List Char} {bs : Bytes},
    (∀ c ∈ cs, c.toNat < 128) → (decodeFrom index (Utf8.encode cs) = .ok bs ↔ Denotes cs bs)
  | index, [], bs, _ => by
    constructor
    · intro h
      cases h
      exact .nil
    · intro h
      cases h
      rfl
  | index, [c], bs, hlt => by
    rw [Utf8.encode_cons, encodeChar_of_lt (hlt c (by simp))]
    constructor
    · intro h
      cases h
    · intro h
      cases h
  | index, hi :: lo :: cs, bs, hlt => by
    have hhi := hlt hi (by simp)
    have hlo := hlt lo (by simp)
    have ih : ∀ {tl}, decodeFrom (index + 2) (Utf8.encode cs) = .ok tl ↔ Denotes cs tl :=
      decodeFrom_encode_iff fun c hc => hlt c (by simp [hc])
    rw [Utf8.encode_cons, Utf8.encode_cons, encodeChar_of_lt hhi, encodeChar_of_lt hlo,
      List.singleton_append, List.singleton_append, decodeFrom_cons_eq_ok_iff]
    constructor
    · rintro ⟨h, l, tl, hh, hl, ht, rfl⟩
      exact .cons ((isDigit_iff hhi).mpr hh) ((isDigit_iff hlo).mpr hl) (ih.mp ht)
    · intro h
      cases h with
      | cons hh hl ht =>
        exact ⟨_, _, _, (isDigit_iff hhi).mp hh, (isDigit_iff hlo).mp hl, ih.mpr ht, rfl⟩

theorem decodeFrom_eq_ok_iff {index : ℕ} {cs : List Char} {bs : Bytes} :
    decodeFrom index (Utf8.encode cs) = .ok bs ↔ Denotes cs bs := by
  constructor
  · intro h
    exact (decodeFrom_encode_iff (lt_of_decodeFrom h)).mp h
  · intro h
    refine (decodeFrom_encode_iff fun c hc => ?_).mpr h
    obtain ⟨n, hn⟩ := h.isDigit c hc
    exact hn.toNat_lt

/-- Reading accepts exactly the texts that stand for bytes. -/
theorem decode_eq_ok_iff {cs : List Char} {bs : Bytes} :
    decode (Utf8.encode cs) = .ok bs ↔ Denotes cs bs := by
  unfold decode
  split_ifs with hodd
  · constructor
    · intro h
      cases h
    · intro h
      have := even_of_decodeFrom (decodeFrom_eq_ok_iff.mpr h : decodeFrom 0 _ = _)
      omega
  · exact decodeFrom_eq_ok_iff

/-- What is written stands for the bytes. -/
theorem denotes_encodeText (bs : Bytes) : Denotes (encodeText bs).toList bs := by
  unfold encodeText encode
  rw [String.toList_ofList]
  induction bs with
  | nil => exact .nil
  | cons b bs ih =>
    have hb := UInt8.toNat_lt b
    have e : b = UInt8.ofNat (16 * (b.toNat / 16) + b.toNat % 16) := by
      rw [Nat.div_add_mod, UInt8.ofNat_toNat]
    rw [List.flatMap_cons, List.map_append, List.map_cons, List.map_cons, List.map_nil]
    have h := Denotes.cons (isDigit_digit (n := b.toNat / 16) (by omega))
      (isDigit_digit (n := b.toNat % 16) (by omega)) ih
    rw [← e] at h
    exact h

/-- What is written for the bytes of a text is this text in lower case. -/
theorem Denotes.encodeText_eq {cs : List Char} {bs : Bytes} (h : Denotes cs bs) :
    (encodeText bs).toList = cs.map Char.toLower := by
  unfold encodeText encode
  rw [String.toList_ofList]
  induction h with
  | nil => rfl
  | @cons hi lo h l cs bs hhi hlo _ ih =>
    have hb : (UInt8.ofNat (16 * h + l)).toNat = 16 * h + l :=
      Utf8.toNat_ofNat_of_lt (by have := hhi.lt; have := hlo.lt; omega)
    have hhigh : (16 * h + l) / 16 = h := by have := hlo.lt; omega
    have hlow : (16 * h + l) % 16 = l := by have := hlo.lt; omega
    rw [List.flatMap_cons, List.map_append, ih, hb, hhigh, hlow]
    show _ = hi.toLower :: lo.toLower :: cs.map Char.toLower
    rw [hhi.toLower_eq, hlo.toLower_eq]
    rfl

end OffchainSeal.Hex
