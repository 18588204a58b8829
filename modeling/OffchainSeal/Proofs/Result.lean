import Mathlib

/-!
# When a computation succeeds

What a chain of steps, a mapped value or a mapped fault tells about the steps
it was made of, and what a lookup finds under keys that are distinct.
-/

namespace Except

universe u

variable {ε ε' : Type*} {α β γ : Type u}

theorem ok_bind {a : α} {f : α → Except ε β} : (.ok a : Except ε α) >>= f = f a := rfl

theorem error_bind {e : ε} {f : α → Except ε β} : (.error e : Except ε α) >>= f = .error e := rfl

@[simp] theorem bind_eq_ok_iff {x : Except ε α} {f : α → Except ε β} {b : β} :
    x >>= f = .ok b ↔ ∃ a, x = .ok a ∧ f a = .ok b := by
  cases x <;> simp [bind, Except.bind]

@[simp] theorem map_eq_ok_iff {x : Except ε α} {f : α → β} {b : β} :
    x.map f = .ok b ↔ ∃ a, x = .ok a ∧ f a = b := by
  cases x <;> simp [Except.map]

@[simp] theorem map_eq_error_iff {x : Except ε α} {f : α → β} {e : ε} :
    x.map f = .error e ↔ x = .error e := by
  cases x <;> simp [Except.map]

@[simp] theorem mapError_eq_ok_iff {x : Except ε α} {f : ε → ε'} {a : α} :
    x.mapError f = .ok a ↔ x = .ok a := by
  cases x <;> simp [Except.mapError]

@[simp] theorem mapError_eq_error_iff {x : Except ε α} {f : ε → ε'} {e : ε'} :
    x.mapError f = .error e ↔ ∃ d, x = .error d ∧ f d = e := by
  cases x <;> simp [Except.mapError]

theorem map_map {x : Except ε α} {f : α → β} {g : β → γ} :
    (x.map f).map g = x.map (fun a => g (f a)) := by
  cases x <;> rfl

theorem toOption_eq_some_iff {x : Except ε α} {a : α} : x.toOption = some a ↔ x = .ok a := by
  cases x <;> simp [Except.toOption]

/-- A computation fails or gives a value. -/
theorem exists_error_iff {x : Except ε α} : (∃ e, x = .error e) ↔ ∀ a, x ≠ .ok a := by
  cases x <;> simp

end Except

namespace List

variable {κ α : Type*} [BEq κ]

/-- Mapped values are found where the values are. -/
theorem lookup_map_snd {β : Type*} (f : α → β) (ps : List (κ × α)) (key : κ) :
    (ps.map fun p => (p.1, f p.2)).lookup key = (ps.lookup key).map f := by
  induction ps with
  | nil => rfl
  | cons p ps ih =>
    rw [map_cons, lookup_cons, lookup_cons]
    cases key == p.1 with
    | true => rfl
    | false => exact ih

variable [LawfulBEq κ] {ps : List (κ × α)} {key : κ} {a : α}

/-- Nothing is found under a key that is not there. -/
theorem lookup_eq_none_of_notMem (h : key ∉ ps.map Prod.fst) : ps.lookup key = none := by
  refine lookup_eq_none_iff.mpr fun p hp => ?_
  rw [bne_iff_ne]
  exact fun heq => h (heq ▸ mem_map_of_mem hp)

/-- With distinct keys, what is found under a key is what stands there. -/
theorem lookup_eq_some_iff_mem (h : (ps.map Prod.fst).Nodup) :
    ps.lookup key = some a ↔ (key, a) ∈ ps := by
  constructor
  · intro hlookup
    obtain ⟨front, back, rfl, -⟩ := lookup_eq_some_iff.mp hlookup
    simp
  · intro hmem
    cases hlookup : ps.lookup key with
    | none => simpa using lookup_eq_none_iff.mp hlookup (key, a) hmem
    | some b =>
      obtain ⟨front, back, rfl, -⟩ := lookup_eq_some_iff.mp hlookup
      have hb : (key, b) ∈ front ++ (key, b) :: back := by simp
      rw [(Prod.mk.inj (inj_on_of_nodup_map h hmem hb rfl)).2]

end List
