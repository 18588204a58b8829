import OffchainSeal.Proofs.Utf8
import OffchainSeal.Wire.Reader

/-!
# What readers take

A reader is described by what it takes: the value, and the bytes that are left.
Each reader gets one `takes_` lemma, and later proofs use these alone.
-/

namespace OffchainSeal.Wire

variable {α β : Type}

/-- The outcome of a reader on the unread bytes, and the bytes it leaves. -/
def Get.result (g : Get α) (bs : Bytes) : Except Fault α × Bytes :=
  g.run.run bs

/-- The reader `g` takes `a` from the unread bytes `bs` and leaves `rest`. -/
def Get.Takes (g : Get α) (bs : Bytes) (a : α) (rest : Bytes) : Prop :=
  g.result bs = (.ok a, rest)

/-! ## Steps -/

theorem Get.result_pure (a : α) (bs : Bytes) : (pure a : Get α).result bs = (.ok a, bs) := rfl

theorem Get.result_throw (e : Fault) (bs : Bytes) :
    (throw e : Get α).result bs = (.error e, bs) := rfl

theorem Get.result_get (bs : Bytes) : (get : Get Bytes).result bs = (.ok bs, bs) := rfl

theorem Get.result_set (next bs : Bytes) : (set next : Get Unit).result bs = (.ok (), next) := rfl

theorem Get.result_bind (g : Get α) (f : α → Get β) (bs : Bytes) :
    (g >>= f).result bs = match g.result bs with
      | (.ok a, mid) => (f a).result mid
      | (.error e, mid) => (.error e, mid) := by
  change (ExceptT.bindCont f (g.result bs).1).run (g.result bs).2 = _
  rcases g.result bs with ⟨_ | _, _⟩ <;> rfl

theorem takes_pure {a b : α} {bs rest : Bytes} :
    (pure a : Get α).Takes bs b rest ↔ a = b ∧ bs = rest := by
  simp [Get.Takes, Get.result_pure]

theorem takes_throw {e : Fault} {b : α} {bs rest : Bytes} :
    (throw e : Get α).Takes bs b rest ↔ False := by
  simp [Get.Takes, Get.result_throw]

theorem takes_bind {g : Get α} {f : α → Get β} {b : β} {bs rest : Bytes} :
    (g >>= f).Takes bs b rest ↔ ∃ a mid, g.Takes bs a mid ∧ (f a).Takes mid b rest := by
  unfold Get.Takes
  rw [Get.result_bind]
  rcases g.result bs with ⟨_ | a, mid⟩ <;> simp

theorem takes_get_bind {f : Bytes → Get β} {b : β} {bs rest : Bytes} :
    (get >>= f : Get β).Takes bs b rest ↔ (f bs).Takes bs b rest := by
  unfold Get.Takes
  rw [Get.result_bind, Get.result_get]

theorem takes_set_bind {next : Bytes} {f : Unit → Get β} {b : β} {bs rest : Bytes} :
    (set next >>= f : Get β).Takes bs b rest ↔ (f ()).Takes next b rest := by
  unfold Get.Takes
  rw [Get.result_bind, Get.result_set]

/-! ## Bytes and texts -/

theorem takes_getByte {what : String} {b : UInt8} {bs rest : Bytes} :
    (getByte what).Takes bs b rest ↔ bs = b :: rest := by
  unfold getByte
  rw [takes_get_bind]
  cases bs with
  | nil => simp [takes_throw]
  | cons c tl => simp only [takes_set_bind, takes_pure, List.cons.injEq]

end OffchainSeal.Wire
