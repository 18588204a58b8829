import OffchainSeal.Proofs.Wire.Varuint

/-!
# Texts in the binary form

What is read as a text or an optional text, and what is written for one. A text
is a number of bytes and that many bytes of UTF-8; its bytes are determined by
the text and by the row of groups that its number takes.

* `takes_getText`, `takes_getOptionalText`: what the readers accept.
* `Get.ofBytes_eq_ok_iff`: reading a whole byte string.
* `writes_putText`, `writes_putOptionalText`: what the writers give.
-/

namespace OffchainSeal.Wire

/-- The bytes of a text. -/
def textBody (s : String) : Bytes :=
  Utf8.encode s.toList

theorem textBody_injective {s t : String} (h : textBody s = textBody t) : s = t :=
  String.toList_injective (Utf8.encode_injective h)

theorem textBody_eq_nil_iff {s : String} : textBody s = [] ↔ s = "" := by
  unfold textBody
  rw [Utf8.encode_eq_nil_iff, String.toList_eq_nil_iff]

/-! ## Reading -/

theorem takes_getText {field : String} {s : String} {bs rest : Bytes} :
    (getText field).Takes bs s rest ↔
      ∃ ps, IsVaruint (textBody s).length ps ∧ bs = ps ++ textBody s ++ rest := by
  unfold getText
  rw [takes_bind]
  constructor
  · rintro ⟨v, mid, hv, h⟩
    obtain ⟨ps, rfl, hps⟩ := takes_getVaruint.mp hv
    rw [takes_get_bind] at h
    split_ifs at h with hlen
    · exact (takes_throw.mp h).elim
    · split at h
      · exact (takes_throw.mp h).elim
      · next t hd =>
        rw [takes_set_bind, takes_pure] at h
        obtain ⟨rfl, rfl⟩ := h
        rw [Utf8.decode_eq_ok_iff] at hd
        have hbody : textBody (String.ofList t) = mid.take v.toNat := by
          rw [textBody, String.toList_ofList, hd]
        refine ⟨ps, ?_, ?_⟩
        · rw [hbody, List.length_take, Nat.min_eq_left (Nat.le_of_not_lt hlen)]; exact hps
        · rw [hbody, List.append_assoc, List.take_append_drop]
  · rintro ⟨ps, hps, rfl⟩
    have hv : (UInt32.ofNat (textBody s).length).toNat = (textBody s).length := by
      rw [UInt32.toNat_ofNat']; exact Nat.mod_eq_of_lt hps.lt
    refine ⟨UInt32.ofNat (textBody s).length, textBody s ++ rest,
      takes_getVaruint.mpr ⟨ps, by rw [List.append_assoc], by rw [hv]; exact hps⟩, ?_⟩
    rw [takes_get_bind, hv, if_neg (by simp), List.take_left, List.drop_left]
    rw [textBody, Utf8.decode_encode]
    simp only [takes_set_bind, takes_pure, String.ofList_toList, and_self]

theorem takes_getOptionalText_none {field : String} {bs rest : Bytes} :
    (getOptionalText field).Takes bs none rest ↔ bs = 0 :: rest := by
  unfold getOptionalText
  simp only [takes_bind, takes_getByte]
  constructor
  · rintro ⟨flag, mid, rfl, h⟩
    split_ifs at h with h₀ h₁
    · rw [h₀, (takes_pure.mp h).2]
    · obtain ⟨s, mid', -, h⟩ := takes_bind.mp h
      cases (takes_pure.mp h).1
    · exact (takes_throw.mp h).elim
  · rintro rfl
    exact ⟨0, rest, rfl, by rw [if_pos rfl]; exact takes_pure.mpr ⟨rfl, rfl⟩⟩

theorem takes_getOptionalText_some {field s : String} {bs rest : Bytes} :
    (getOptionalText field).Takes bs (some s) rest ↔
      ∃ ps, IsVaruint (textBody s).length ps ∧ bs = 1 :: (ps ++ textBody s ++ rest) := by
  unfold getOptionalText
  simp only [takes_bind, takes_getByte]
  constructor
  · rintro ⟨flag, mid, rfl, h⟩
    split_ifs at h with h₀ h₁
    · cases (takes_pure.mp h).1
    · obtain ⟨t, mid', ht, h⟩ := takes_bind.mp h
      obtain ⟨e, rfl⟩ := takes_pure.mp h
      cases e
      obtain ⟨ps, hps, rfl⟩ := takes_getText.mp ht
      exact ⟨ps, hps, by rw [h₁]⟩
    · exact (takes_throw.mp h).elim
  · rintro ⟨ps, hps, rfl⟩
    refine ⟨1, _, rfl, ?_⟩
    rw [if_neg (by decide), if_pos rfl]
    exact takes_bind.mpr ⟨s, rest, takes_getText.mpr ⟨ps, hps, rfl⟩, takes_pure.mpr ⟨rfl, rfl⟩⟩

theorem takes_finish {u : Unit} {bs rest : Bytes} :
    finish.Takes bs u rest ↔ bs = [] ∧ rest = [] := by
  unfold finish
  rw [takes_get_bind]
  cases bs with
  | nil => simp [takes_pure, eq_comm]
  | cons b tl => simp [takes_throw]

/-- A reader makes `a` of a byte string exactly if it takes `a` and leaves nothing. -/
theorem Get.ofBytes_eq_ok_iff {α : Type} {g : Get α} {bs : Bytes} {a : α} :
    g.ofBytes bs = .ok a ↔ g.Takes bs a [] := by
  change ((g >>= fun a => finish >>= fun _ => pure a : Get α).result bs).1 = .ok a ↔ _
  constructor
  · intro h
    obtain ⟨b, mid, hg, h⟩ := takes_bind.mp (Prod.ext h rfl)
    obtain ⟨_, rest, hf, h⟩ := takes_bind.mp h
    obtain ⟨rfl, -⟩ := takes_pure.mp h
    rwa [(takes_finish.mp hf).1] at hg
  · intro h
    have hf : (finish >>= fun _ => pure a : Get α).Takes [] a [] :=
      takes_bind.mpr ⟨(), [], takes_finish.mpr ⟨rfl, rfl⟩, takes_pure.mpr ⟨rfl, rfl⟩⟩
    exact congrArg Prod.fst (takes_bind.mpr ⟨a, [], h, hf⟩)

/-! ## Writing -/

/-- The outcome of a writer on the bytes written so far, and the bytes then written. -/
def Put.result (p : Put Unit) (bs : Bytes) : Except Fault Unit × Bytes :=
  p.run.run bs

/-- The writer `p` appends `w` to whatever was written. -/
def Put.Writes (p : Put Unit) (w : Bytes) : Prop :=
  ∀ bs, p.result bs = (.ok (), bs ++ w)

/-- The writer `p` fails with `e` whatever was written. -/
def Put.Fails (p : Put Unit) (e : Fault) : Prop :=
  ∀ bs, (p.result bs).1 = .error e

theorem Put.result_bind (p q : Put Unit) (bs : Bytes) :
    (p >>= fun _ => q).result bs = match p.result bs with
      | (.ok (), mid) => q.result mid
      | (.error e, mid) => (.error e, mid) := by
  change (ExceptT.bindCont (fun _ => q) (p.result bs).1).run (p.result bs).2 = _
  rcases p.result bs with ⟨_ | _, _⟩ <;> rfl

theorem writes_bind {p q : Put Unit} {v w : Bytes} (hp : p.Writes v) (hq : q.Writes w) :
    (p >>= fun _ => q : Put Unit).Writes (v ++ w) := by
  intro bs
  rw [Put.result_bind, hp bs]
  exact (hq _).trans (by rw [List.append_assoc])

theorem fails_bind_left {p q : Put Unit} {e : Fault} (hp : p.Fails e) :
    (p >>= fun _ => q : Put Unit).Fails e := by
  intro bs
  rw [Put.result_bind]
  have := hp bs
  rcases h : p.result bs with ⟨e' | u, mid⟩
  · rw [h] at this; exact this
  · rw [h] at this; cases this

theorem fails_bind_right {p q : Put Unit} {v : Bytes} {e : Fault} (hp : p.Writes v)
    (hq : q.Fails e) : (p >>= fun _ => q : Put Unit).Fails e := by
  intro bs
  rw [Put.result_bind, hp bs]
  exact hq _

theorem writes_pure : (pure () : Put Unit).Writes [] := by
  intro bs
  rw [List.append_nil]; rfl

theorem writes_putBytes (w : Bytes) : (putBytes w).Writes w := fun _ => rfl

/-- The written form of a text. -/
def textForm (s : String) : Bytes :=
  varuint (textBody s).length ++ textBody s

/-- The written form of an optional text. -/
def optionalForm : Option String → Bytes
  | none => [0]
  | some s => 1 :: textForm s

theorem writes_putText {s : String} (h : (textBody s).length < wordLimit) :
    (putText s).Writes (textForm s) := by
  have e : putText s = putBytes (textForm s) := if_pos h
  rw [e]
  exact writes_putBytes _

theorem fails_putText {s : String} (h : ¬ (textBody s).length < wordLimit) :
    (putText s).Fails (.textTooLong (textBody s).length) := by
  have e : putText s = throw (.textTooLong (textBody s).length) := if_neg h
  rw [e]
  exact fun _ => rfl

theorem writes_putOptionalText_none : (putOptionalText none).Writes (optionalForm none) :=
  writes_putBytes [0]

theorem writes_putOptionalText_some {s : String} (h : (textBody s).length < wordLimit) :
    (putOptionalText (some s)).Writes (optionalForm (some s)) :=
  writes_bind (writes_putBytes [1]) (writes_putText h)

theorem fails_putOptionalText {s : String} (h : ¬ (textBody s).length < wordLimit) :
    (putOptionalText (some s)).Fails (.textTooLong (textBody s).length) :=
  fails_bind_right (writes_putBytes [1]) (fails_putText h)

theorem Put.Writes.toBytes {p : Put Unit} {w : Bytes} (h : p.Writes w) : p.toBytes = .ok w := by
  have h₀ : p.run.run [] = (.ok (), w) := h []
  unfold Put.toBytes
  rw [h₀]

theorem Put.Fails.toBytes {p : Put Unit} {e : Fault} (h : p.Fails e) : p.toBytes = .error e := by
  have h₀ : (p.run.run []).1 = .error e := h []
  unfold Put.toBytes
  rcases hr : p.run.run [] with ⟨e' | u, mid⟩
  · rw [hr] at h₀; cases h₀; rfl
  · rw [hr] at h₀; cases h₀

end OffchainSeal.Wire
