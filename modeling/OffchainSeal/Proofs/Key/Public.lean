import OffchainSeal.Proofs.Curve.Root
import OffchainSeal.Proofs.Key.Checked
import OffchainSeal.Sealing

/-!
# The texts of a public key

A public key is written compressed, in a plain and in a typed text, and read back from
each. What is read is more: the compact form, of a key whose second coordinate is even,
is taken for the same key. Nothing else is.

* `PublicKey.ofBytes_eq_ok_iff`, `PublicKey.decode_eq_ok_iff`: what is read as a key.
* `public_key_round_trip`: what is written is read back.
* `public_key_texts`: a text is the one that is written exactly if its body is not in the
  compact form.
-/

namespace OffchainSeal

open Curve

namespace PublicKey

/-! ## Bytes -/

/-- The byte in front of the compact form. -/
def compactTag : UInt8 := 5

/-- The compact form: the first coordinate alone. -/
def toCompactBytes (p : PublicKey) : Bytes :=
  compactTag :: Bytes.ofNat 32 p.x.val

/-- The forms that are read as the key. -/
def forms (p : PublicKey) : List Bytes :=
  p.toBytes :: if p.y.isOdd then [] else [p.toCompactBytes]

theorem length_toBytes (p : PublicKey) : p.toBytes.length = 33 := by
  unfold toBytes
  rw [List.length_cons, Bytes.length_ofNat]

theorem length_toCompactBytes (p : PublicKey) : p.toCompactBytes.length = 33 := by
  unfold toCompactBytes
  rw [List.length_cons, Bytes.length_ofNat]

theorem mem_forms_iff {p : PublicKey} {bs : Bytes} :
    bs ∈ p.forms ↔ bs = p.toBytes ∨ p.y.isOdd = false ∧ bs = p.toCompactBytes := by
  unfold forms
  cases p.y.isOdd <;> simp

theorem length_of_mem_forms {p : PublicKey} {bs : Bytes} (h : bs ∈ p.forms) : bs.length = 33 := by
  rcases mem_forms_iff.mp h with rfl | ⟨-, rfl⟩
  · exact p.length_toBytes
  · exact p.length_toCompactBytes

theorem toNat_x (p : PublicKey) : Bytes.toNat (Bytes.ofNat 32 p.x.val) = p.x.val := by
  have hprime : fieldPrime < 256 ^ 32 := by
    unfold fieldPrime
    norm_num
  exact Bytes.toNat_ofNat (lt_trans p.x.isLt hprime)

/-- The parity of the second coordinate that a tag asks for. -/
def parity? (tag : UInt8) : Option Bool :=
  if tag = 2 ∨ tag = compactTag then some false else if tag = 3 then some true else none

theorem ofBytes_cons {tag : UInt8} {rest : Bytes} (h : rest.length = 32) :
    ofBytes (tag :: rest) =
      match (parity? tag).bind (lift? (Bytes.toNat rest)) with
      | some p => .ok p
      | none => .error .offCurve := by
  have hlen : ¬ (tag :: rest).length ≠ 33 := by
    rw [List.length_cons, h]
    decide
  unfold ofBytes parity? compactTag
  rw [if_neg hlen, List.head?_cons, List.drop_one, List.tail_cons]
  by_cases h₂ : tag = 2
  · rw [h₂]
    rfl
  · by_cases h₃ : tag = 3
    · rw [h₃]
      rfl
    · by_cases h₅ : tag = 5
      · rw [h₅]
        rfl
      · simp [h₂, h₃, h₅]

theorem ofBytes_cons_eq_ok_iff {tag : UInt8} {rest : Bytes} {p : PublicKey}
    (h : rest.length = 32) :
    ofBytes (tag :: rest) = .ok p ↔ parity? tag = some p.y.isOdd ∧ Bytes.toNat rest = p.x.val := by
  rw [ofBytes_cons h]
  constructor
  · intro hp
    split at hp
    · next q hq =>
      obtain ⟨odd, hodd, hlift⟩ := Option.bind_eq_some_iff.mp hq
      obtain ⟨hx, hy⟩ := lift?_eq_some_iff.mp hlift
      rw [Except.ok.injEq] at hp
      rw [← hp, hodd, hx, hy]
      exact ⟨rfl, rfl⟩
    · cases hp
  · rintro ⟨hodd, hx⟩
    rw [hodd, hx, Option.bind_some, lift?_eq_some_iff.mpr ⟨rfl, rfl⟩]

theorem parity?_eq_some_iff {tag : UInt8} {odd : Bool} :
    parity? tag = some odd ↔ tag = (if odd then 3 else 2) ∨ odd = false ∧ tag = compactTag := by
  unfold parity? compactTag
  by_cases h₂ : tag = 2
  · cases odd <;> simp [h₂]
  · by_cases h₃ : tag = 3
    · cases odd <;> simp [h₃]
    · by_cases h₅ : tag = 5 <;> cases odd <;> simp [h₂, h₃, h₅]

/-- Bytes are read as a key exactly if they are one of its forms. -/
theorem ofBytes_eq_ok_iff {bs : Bytes} {p : PublicKey} : ofBytes bs = .ok p ↔ bs ∈ p.forms := by
  by_cases hlen : bs.length = 33
  · obtain ⟨tag, rest, rfl⟩ := List.exists_cons_of_length_eq_add_one hlen
    have hrest : rest.length = 32 := Nat.succ.inj hlen
    have hx : Bytes.toNat rest = p.x.val ↔ rest = Bytes.ofNat 32 p.x.val := by
      constructor
      · intro h
        rw [← h, ← hrest, Bytes.ofNat_toNat]
      · intro h
        rw [h]
        exact p.toNat_x
    rw [ofBytes_cons_eq_ok_iff hrest, parity?_eq_some_iff, hx, mem_forms_iff]
    unfold toBytes toCompactBytes
    rw [List.cons.injEq, List.cons.injEq, or_and_right, and_assoc]
  · constructor
    · intro h
      unfold ofBytes at h
      rw [if_pos hlen] at h
      cases h
    · intro h
      exact absurd (length_of_mem_forms h) hlen

/-- The bytes begin as a compact form does. -/
def IsCompact (bs : Bytes) : Prop :=
  bs.head? = some compactTag

/-- The tag tells the compressed from the compact form. -/
theorem eq_toBytes_iff {bs : Bytes} {p : PublicKey} (h : bs ∈ p.forms) :
    bs = p.toBytes ↔ ¬ IsCompact bs := by
  have hne : ∀ odd : Bool, (if odd then 3 else 2 : UInt8) ≠ compactTag := by decide
  have hbytes : ¬ IsCompact p.toBytes := by
    unfold IsCompact toBytes
    rw [List.head?_cons, Option.some.injEq]
    exact hne _
  rcases mem_forms_iff.mp h with rfl | ⟨-, rfl⟩
  · exact iff_of_true rfl hbytes
  · have hcompact : IsCompact p.toCompactBytes := rfl
    refine iff_of_false (fun heq => hbytes ?_) (not_not.mpr hcompact)
    rw [← heq]
    exact hcompact

theorem eq_iff_isCompact {bs bs' : Bytes} {p : PublicKey} (h : bs ∈ p.forms) (h' : bs' ∈ p.forms) :
    bs = bs' ↔ (IsCompact bs ↔ IsCompact bs') := by
  constructor
  · intro heq
    rw [heq]
  · intro hiff
    by_cases hcompact : IsCompact bs
    · rcases mem_forms_iff.mp h with hbs | ⟨-, hbs⟩
      · exact absurd hcompact ((eq_toBytes_iff h).mp hbs)
      · rcases mem_forms_iff.mp h' with hbs' | ⟨-, hbs'⟩
        · exact absurd (hiff.mp hcompact) ((eq_toBytes_iff h').mp hbs')
        · rw [hbs, hbs']
    · rw [(eq_toBytes_iff h).mpr hcompact, (eq_toBytes_iff h').mpr (hcompact ∘ hiff.mpr)]

/-! ## Texts -/

/-- The plain or the typed text of a form. -/
def textOf (typed : Bool) (bs : Bytes) : List Char :=
  if typed then typedTag ++ Key.encodeChecked bs Key.curveTag
  else plainTag ++ Key.encodeChecked bs []

/-- A text belongs to one form. -/
theorem textOf_injective (typed : Bool) {bs bs' : Bytes} (hlen : bs.length = 33)
    (hlen' : bs'.length = 33) (h : textOf typed bs = textOf typed bs') : bs = bs' := by
  cases typed with
  | false => exact Key.encodeChecked_injective hlen hlen' (List.append_cancel_left h)
  | true => exact Key.encodeChecked_injective hlen hlen' (List.append_cancel_left h)

/-- The two tags differ in their first letter. -/
theorem tags_ne (body body' : List Char) : plainTag ++ body ≠ typedTag ++ body' := by
  intro h
  exact absurd (List.cons.inj h).1 (by decide)

theorem not_blank_of_mem_textOf {typed : Bool} {bs : Bytes} :
    ∀ c ∈ textOf typed bs, Text.isBlank c = false := by
  have htags : (plainTag ++ typedTag).all (!Text.isBlank ·) = true := by decide
  have htag : ∀ c ∈ plainTag ++ typedTag, Text.isBlank c = false := by
    simpa using List.all_eq_true.mp htags
  intro c hc
  cases typed with
  | false =>
    rcases List.mem_append.mp hc with hc | hc
    · exact htag c (List.mem_append_left _ hc)
    · exact Base58.not_blank_of_mem_encode hc
  | true =>
    rcases List.mem_append.mp hc with hc | hc
    · exact htag c (List.mem_append_right _ hc)
    · exact Base58.not_blank_of_mem_encode hc

theorem decodeChecked_bind_eq_ok_iff {body : List Char} {suffix : Bytes} {p : PublicKey} :
    (Key.decodeChecked body 33 suffix >>= ofBytes) = .ok p ↔
      ∃ bs ∈ p.forms, body = Key.encodeChecked bs suffix := by
  rw [Except.bind_eq_ok_iff]
  constructor
  · rintro ⟨bs, hbs, h⟩
    exact ⟨bs, ofBytes_eq_ok_iff.mp h, (Key.decodeChecked_eq_ok_iff.mp hbs).2⟩
  · rintro ⟨bs, hbs, h⟩
    exact ⟨bs, Key.decodeChecked_eq_ok_iff.mpr ⟨length_of_mem_forms hbs, h⟩,
      ofBytes_eq_ok_iff.mpr hbs⟩

/-- A text is read as a key exactly if it is, blanks around it aside, the plain or the
typed text of one of its forms. -/
theorem decode_eq_ok_iff {text : List Char} {p : PublicKey} :
    decode text = .ok p ↔ ∃ typed, ∃ bs ∈ p.forms, Text.trim text = textOf typed bs := by
  unfold decode
  dsimp only
  generalize Text.trim text = s
  rw [Bool.exists_bool]
  rcases htyped : Text.after? typedTag s with _ | body
  · dsimp only
    have hnone : ¬ ∃ bs ∈ p.forms, s = textOf true bs := by
      rintro ⟨bs, -, h⟩
      rw [Text.after?_eq_some_iff.mpr h] at htyped
      cases htyped
    rw [or_iff_left hnone]
    rcases hplain : Text.after? plainTag s with _ | body
    · refine iff_of_false ?_ ?_
      · dsimp only
        split <;> exact fun h => by cases h
      · rintro ⟨bs, -, h⟩
        rw [Text.after?_eq_some_iff.mpr h] at hplain
        cases hplain
    · have hs := Text.after?_eq_some_iff.mp hplain
      refine decodeChecked_bind_eq_ok_iff.trans ?_
      rw [hs]
      exact exists_congr fun bs => and_congr_right fun _ => List.append_right_inj _ |>.symm
  · have hs := Text.after?_eq_some_iff.mp htyped
    have hnone : ¬ ∃ bs ∈ p.forms, s = textOf false bs := by
      rintro ⟨bs, -, h⟩
      exact tags_ne _ _ (h.symm.trans hs)
    rw [or_iff_right hnone]
    refine decodeChecked_bind_eq_ok_iff.trans ?_
    rw [hs]
    exact exists_congr fun bs => and_congr_right fun _ => List.append_right_inj _ |>.symm

theorem trim_textOf (typed : Bool) (bs : Bytes) :
    Text.trim (textOf typed bs) = textOf typed bs := by
  have hnil : ∀ c ∈ ([] : List Char), Text.isBlank c = true := List.forall_mem_nil _
  have h := Text.trim_append_of_forall hnil hnil (@not_blank_of_mem_textOf typed bs)
  rwa [List.append_nil] at h

/-- Every text of every form is read, also between blanks. -/
theorem ofString_textOf {p : PublicKey} {bs : Bytes} (h : bs ∈ p.forms) (typed : Bool)
    {front back : List Char} (hfront : ∀ c ∈ front, Text.isBlank c = true)
    (hback : ∀ c ∈ back, Text.isBlank c = true) :
    ofString (String.ofList (front ++ textOf typed bs ++ back)) = .ok p := by
  unfold ofString
  rw [String.toList_ofList, decode_eq_ok_iff,
    Text.trim_append_of_forall hfront hback not_blank_of_mem_textOf]
  exact ⟨typed, bs, h, rfl⟩

/-! ## Compact texts -/

/-- The text is written for bytes that begin as a compact form does. -/
def IsCompactText (text : List Char) : Prop :=
  ∃ typed bs, bs.length = 33 ∧ IsCompact bs ∧ text = textOf typed bs

theorem isCompactText_textOf_iff {p : PublicKey} {bs : Bytes} (h : bs ∈ p.forms)
    (typed : Bool) : IsCompactText (textOf typed bs) ↔ IsCompact bs := by
  constructor
  · rintro ⟨typed', bs', hlen, hcompact, heq⟩
    have htyped : typed = typed' := by
      cases typed <;> cases typed'
      · rfl
      · exact absurd heq (tags_ne _ _)
      · exact absurd heq.symm (tags_ne _ _)
      · rfl
    rw [← htyped] at heq
    rw [textOf_injective typed (length_of_mem_forms h) hlen heq]
    exact hcompact
  · intro hcompact
    exact ⟨typed, bs, length_of_mem_forms h, hcompact, rfl⟩

theorem eq_textOf_iff {p : PublicKey} {bs : Bytes} (h : bs ∈ p.forms) (typed : Bool) :
    (textOf typed bs = p.toPlain ∨ textOf typed bs = p.toTyped) ↔ bs = p.toBytes := by
  constructor
  · intro heq
    cases typed with
    | false =>
      rcases heq with heq | heq
      · exact textOf_injective false (length_of_mem_forms h) p.length_toBytes heq
      · exact absurd heq (tags_ne _ _)
    | true =>
      rcases heq with heq | heq
      · exact absurd heq.symm (tags_ne _ _)
      · exact textOf_injective true (length_of_mem_forms h) p.length_toBytes heq
  · intro heq
    rw [heq]
    cases typed with
    | false => exact .inl rfl
    | true => exact .inr rfl

/-- The tag at the front tells the plain from the typed texts. -/
theorem typed_eq_of_leading {typed typed' : Bool} {bs bs' : Bytes} {tag : List Char}
    (htag : tag = plainTag ∨ tag = typedTag) (h : tag <+: textOf typed bs)
    (h' : tag <+: textOf typed' bs') : typed = typed' := by
  have hplain : ∀ bs, ¬ plainTag <+: textOf true bs := by
    rintro bs ⟨body, heq⟩
    exact tags_ne _ _ heq
  have htyped : ∀ bs, ¬ typedTag <+: textOf false bs := by
    rintro bs ⟨body, heq⟩
    exact tags_ne _ _ heq.symm
  cases typed <;> cases typed'
  · rfl
  · rcases htag with rfl | rfl
    · exact absurd h' (hplain _)
    · exact absurd h (htyped _)
  · rcases htag with rfl | rfl
    · exact absurd h (hplain _)
    · exact absurd h' (htyped _)
  · rfl

end PublicKey

open PublicKey

/-! ## Main results -/

/-- What is written for a key is read as that key again: the compressed bytes, and the plain
and the typed text between any blanks. The key is shown as its plain text. -/
theorem public_key_round_trip (p : PublicKey) :
    (∀ front back : List Char, (∀ c ∈ front, Text.isBlank c = true) →
        (∀ c ∈ back, Text.isBlank c = true) →
          PublicKey.ofString (String.ofList (front ++ p.toPlain ++ back)) = .ok p ∧
            PublicKey.ofString (String.ofList (front ++ p.toTyped ++ back)) = .ok p) ∧
      toString p = String.ofList p.toPlain ∧ PublicKey.ofBytes p.toBytes = .ok p := by
  have hform : p.toBytes ∈ p.forms := List.mem_cons_self
  refine ⟨fun front back hfront hback => ⟨?_, ?_⟩, rfl, ofBytes_eq_ok_iff.mpr hform⟩
  · exact ofString_textOf hform false hfront hback
  · exact ofString_textOf hform true hfront hback

/-- Bytes and texts that are read as a key are the ones written for it exactly if they are
not in the compact form, which is read for the keys with an even second coordinate. Two
texts with one tag are read as one key only if they are equal or one of them is compact. -/
theorem public_key_texts (p : PublicKey) :
    (∀ bs : Bytes, PublicKey.ofBytes bs = .ok p → (p.toBytes = bs ↔ ¬ IsCompact bs)) ∧
      (∀ s : String, PublicKey.ofString s = .ok p →
        (Text.trim s.toList = p.toPlain ∨ Text.trim s.toList = p.toTyped ↔
          ¬ IsCompactText (Text.trim s.toList))) ∧
      (∀ (s s' : String) (tag : List Char), PublicKey.ofString s = .ok p →
        PublicKey.ofString s' = .ok p → tag = plainTag ∨ tag = typedTag →
          tag <+: Text.trim s.toList → tag <+: Text.trim s'.toList →
            (Text.trim s.toList = Text.trim s'.toList ↔
              (IsCompactText (Text.trim s.toList) ↔ IsCompactText (Text.trim s'.toList)))) ∧
      (PublicKey.ofBytes p.toCompactBytes = .ok p ↔ p.y.isOdd = false) := by
  refine ⟨?_, ?_, ?_, ?_⟩
  · intro bs h
    rw [eq_comm]
    exact eq_toBytes_iff (ofBytes_eq_ok_iff.mp h)
  · intro s h
    obtain ⟨typed, bs, hbs, htext⟩ := PublicKey.decode_eq_ok_iff.mp h
    rw [htext, eq_textOf_iff hbs, isCompactText_textOf_iff hbs]
    exact eq_toBytes_iff hbs
  · intro s s' tag h h' htag
    obtain ⟨typed, bs, hbs, htext⟩ := PublicKey.decode_eq_ok_iff.mp h
    obtain ⟨typed', bs', hbs', htext'⟩ := PublicKey.decode_eq_ok_iff.mp h'
    rw [htext, htext', isCompactText_textOf_iff hbs, isCompactText_textOf_iff hbs',
      ← eq_iff_isCompact hbs hbs']
    intro hlead hlead'
    rw [typed_eq_of_leading htag hlead hlead']
    refine ⟨textOf_injective typed' (length_of_mem_forms hbs) (length_of_mem_forms hbs'), ?_⟩
    intro heq
    rw [heq]
  · have hne : p.toCompactBytes ≠ p.toBytes := by
      unfold toCompactBytes toBytes compactTag
      cases p.y.isOdd <;> simp
    rw [ofBytes_eq_ok_iff, mem_forms_iff, or_iff_right hne]
    exact and_iff_left rfl

/-- The compact form of the base point is read as the base point, which is written in
another way: two byte strings, and two texts with one tag, are read as one key. -/
theorem compact_form_accepted :
    let bs : Bytes :=
      5 :: Bytes.ofNat 32 0x79be667ef9dcbbac55a06295ce870b07029bfcdb2dce28d959f2815b16f81798
    let text := plainTag ++ Key.encodeChecked bs []
    PublicKey.ofBytes bs = .ok .base ∧ PublicKey.base.toBytes ≠ bs ∧
      PublicKey.ofString (String.ofList text) = .ok .base ∧
      PublicKey.ofString (String.ofList PublicKey.base.toPlain) = .ok .base ∧
      Text.trim text ≠ PublicKey.base.toPlain ∧ Text.trim text ≠ PublicKey.base.toTyped := by
  intro bs text
  have hbs : bs ∈ PublicKey.base.forms :=
    mem_forms_iff.mpr (.inr ⟨by decide, rfl⟩)
  have hne : ¬ (textOf false bs = PublicKey.base.toPlain ∨
      textOf false bs = PublicKey.base.toTyped) := by
    rw [eq_textOf_iff hbs, eq_toBytes_iff hbs]
    exact not_not.mpr rfl
  have hread : ∀ bs ∈ PublicKey.base.forms,
      PublicKey.ofString (String.ofList (textOf false bs)) = .ok .base := by
    intro bs hbs
    unfold PublicKey.ofString
    rw [String.toList_ofList, PublicKey.decode_eq_ok_iff, trim_textOf]
    exact ⟨false, bs, hbs, rfl⟩
  have htrim : Text.trim text = textOf false bs := trim_textOf false bs
  rw [htrim]
  refine ⟨ofBytes_eq_ok_iff.mpr hbs, ?_, hread _ hbs, hread _ List.mem_cons_self, ?_, ?_⟩
  · exact fun h => not_not.mpr rfl ((eq_toBytes_iff hbs).mp h.symm)
  · exact fun h => hne (.inl h)
  · exact fun h => hne (.inr h)

end OffchainSeal
