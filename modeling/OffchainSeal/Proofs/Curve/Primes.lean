import Mathlib
import OffchainSeal.Curve.Point

/-!
# The two primes of the curve

A number `N` is prime if the powers of a base show that large primes divide the
predecessor of every prime factor of `N`. The primes that this needs are shown prime
in the same way, down to small ones.

* `Certifies.prime`, `Chain.prime`: the criterion, and its repeated use.
* `prime_fieldPrime`, `prime_groupOrder`.
-/

namespace OffchainSeal.Curve

/-! ## Powers -/

/-- The power `a ^ n` modulo `m` by squaring, for `n` of at most `bits` binary digits. -/
def powModAux (m : ℕ) : ℕ → ℕ → ℕ → ℕ
  | 0, _, _ => 1 % m
  | bits + 1, a, n =>
    let half := powModAux m bits (a * a % m) (n / 2)
    if n % 2 = 1 then a * half % m else half

/-- The power `a ^ n` modulo `m`. -/
def powMod (m a n : ℕ) : ℕ := powModAux m (n.log2 + 1) a n

theorem powModAux_eq (m : ℕ) {bits n : ℕ} (a : ℕ) (h : n < 2 ^ bits) :
    powModAux m bits a n = a ^ n % m := by
  induction bits generalizing a n with
  | zero =>
    have h₀ : n = 0 := by simpa using h
    rw [powModAux, h₀, pow_zero]
  | succ bits ih =>
    have hhalf : n / 2 < 2 ^ bits := by
      rw [pow_succ] at h
      omega
    rw [powModAux, ih _ hhalf, ← Nat.pow_mod, ← pow_two, ← pow_mul]
    split_ifs with h₁
    · rw [Nat.mul_mod_mod, ← pow_succ', show 2 * (n / 2) + 1 = n by omega]
    · rw [show 2 * (n / 2) = n by omega]

theorem powMod_eq (m a n : ℕ) : powMod m a n = a ^ n % m :=
  powModAux_eq m a Nat.lt_log2_self

/-! ## The criterion -/

/-- The powers of `a` show that each of `qs` divides the predecessor of every prime factor
of `N`, and there is no room for two such factors. -/
def Certifies (N a : ℕ) (qs : List ℕ) : Prop :=
  1 < N ∧ N < (qs.prod + 1) ^ 2 ∧ qs.Nodup ∧ powMod N a (N - 1) = 1 ∧
    ∀ q ∈ qs, q ∣ N - 1 ∧ Nat.Coprime (powMod N a ((N - 1) / q) - 1) N

instance (N a : ℕ) (qs : List ℕ) : Decidable (Certifies N a qs) :=
  inferInstanceAs (Decidable (_ ∧ _))

theorem cast_powMod {N r : ℕ} (h : r ∣ N) (a n : ℕ) :
    (powMod N a n : ZMod r) = (a : ZMod r) ^ n := by
  rw [powMod_eq, ← Nat.cast_pow, ZMod.natCast_eq_natCast_iff]
  exact (Nat.mod_modEq _ _).of_dvd h

/-- A prime divides the order of what only its multiple of an exponent takes to one. -/
theorem dvd_orderOf {M : Type*} [Monoid M] {x : M} {q k : ℕ} (hq : q.Prime)
    (h : x ^ (q * k) = 1) (hne : x ^ k ≠ 1) : q ∣ orderOf x := by
  by_contra hcon
  have hcop : (orderOf x).Coprime q := ((Nat.Prime.coprime_iff_not_dvd hq).mpr hcon).symm
  have hord := orderOf_dvd_of_pow_eq_one h
  exact hne (orderOf_dvd_iff_pow_eq_one.mp (hcop.dvd_of_dvd_mul_left hord))

theorem dvd_pred {N a q r : ℕ} (hq : q.Prime) (hr : r.Prime) (hrN : r ∣ N) (hqN : q ∣ N - 1)
    (hone : powMod N a (N - 1) = 1)
    (hco : Nat.Coprime (powMod N a ((N - 1) / q) - 1) N) : q ∣ r - 1 := by
  have := Fact.mk hr
  have hpow : (a : ZMod r) ^ (N - 1) = 1 := by
    rw [← cast_powMod hrN, hone, Nat.cast_one]
  have hne : (a : ZMod r) ^ ((N - 1) / q) ≠ 1 := by
    intro h
    have hmod : powMod N a ((N - 1) / q) ≡ 1 [MOD r] := by
      rw [← ZMod.natCast_eq_natCast_iff, cast_powMod hrN, h, Nat.cast_one]
    have hdvd : r ∣ powMod N a ((N - 1) / q) - 1 := by
      rcases Nat.eq_zero_or_pos (powMod N a ((N - 1) / q)) with h₀ | h₀
      · rw [h₀]
        exact dvd_zero r
      · exact (Nat.modEq_iff_dvd' h₀).mp hmod.symm
    have := Nat.dvd_gcd hdvd hrN
    rw [hco] at this
    exact hr.one_lt.ne' (Nat.dvd_one.mp this)
  obtain ⟨k, hk⟩ := hqN
  have hdiv : (N - 1) / q = k := by rw [hk, Nat.mul_div_cancel_left _ hq.pos]
  rw [hdiv] at hne
  rw [hk] at hpow
  have ha : (a : ZMod r) ≠ 0 := by
    intro h
    rcases Nat.eq_zero_or_pos k with rfl | hk₀
    · exact hne (pow_zero _)
    · rw [h, zero_pow (Nat.mul_pos hq.pos hk₀).ne'] at hpow
      exact zero_ne_one hpow
  exact (dvd_orderOf hq hpow hne).trans (ZMod.orderOf_dvd_card_sub_one ha)

theorem prod_dvd {qs : List ℕ} {m : ℕ} (hprime : ∀ q ∈ qs, q.Prime) (hnodup : qs.Nodup)
    (h : ∀ q ∈ qs, q ∣ m) : qs.prod ∣ m := by
  induction qs with
  | nil => exact one_dvd m
  | cons q qs ih =>
    rw [List.nodup_cons] at hnodup
    rw [List.prod_cons]
    have hq := hprime q (by simp)
    have hrest := ih (fun x hx => hprime x (List.mem_cons_of_mem _ hx)) hnodup.2
      (fun x hx => h x (List.mem_cons_of_mem _ hx))
    have hcop : q.Coprime qs.prod := by
      rw [Nat.coprime_list_prod_right_iff]
      intro x hx
      rw [Nat.coprime_primes hq (hprime x (List.mem_cons_of_mem _ hx))]
      rintro rfl
      exact hnodup.1 hx
    exact hcop.mul_dvd_of_dvd_of_dvd (h q (by simp)) hrest

theorem Certifies.prime {N a : ℕ} {qs : List ℕ} (h : Certifies N a qs)
    (hqs : ∀ q ∈ qs, q.Prime) : N.Prime := by
  obtain ⟨hN, hlarge, hnodup, hone, hq⟩ := h
  by_contra hcon
  have hr := Nat.minFac_prime hN.ne'
  have hdvd : qs.prod ∣ N.minFac - 1 := prod_dvd hqs hnodup fun q hmem =>
    dvd_pred (hqs q hmem) hr (Nat.minFac_dvd N) (hq q hmem).1 hone (hq q hmem).2
  have hle : qs.prod + 1 ≤ N.minFac := by
    have := Nat.le_of_dvd (Nat.sub_pos_of_lt hr.one_lt) hdvd
    have := hr.one_lt
    omega
  have hsq : N.minFac ^ 2 ≤ N := Nat.minFac_sq_le_self (by omega) hcon
  have := Nat.pow_le_pow_left hle 2
  omega

/-! ## Chains -/

/-- A number with the base and the primes that certify it. -/
structure Step where
  number : ℕ
  base : ℕ
  factors : List ℕ

/-- Each number is certified by numbers that are `small` or certified further on. -/
def Chain (small : List ℕ) : List Step → Prop
  | [] => True
  | s :: rest =>
    Certifies s.number s.base s.factors ∧
      (∀ q ∈ s.factors, q ∈ rest.map Step.number ++ small) ∧ Chain small rest

instance decidableChain (small : List ℕ) : (steps : List Step) → Decidable (Chain small steps)
  | [] => inferInstanceAs (Decidable True)
  | _ :: rest =>
    have := decidableChain small rest
    inferInstanceAs (Decidable (_ ∧ _ ∧ _))

/-- All numbers of a chain are prime. -/
theorem Chain.prime {small : List ℕ} {steps : List Step} (h : Chain small steps)
    (hsmall : ∀ q ∈ small, q.Prime) : ∀ n ∈ steps.map Step.number, n.Prime := by
  induction steps with
  | nil => simp
  | cons s rest ih =>
    obtain ⟨hs, hq, hrest⟩ := h
    intro n hn
    rcases List.mem_cons.mp hn with rfl | hn
    · refine hs.prime fun q hmem => ?_
      rcases List.mem_append.mp (hq q hmem) with hq | hq
      · exact ih hrest q hq
      · exact hsmall q hq
    · exact ih hrest n hn

theorem chain_fieldPrime : Chain [7240687, 96557, 53, 29, 7]
    [⟨fieldPrime, 2, [205115282021455665897114700593932402728804164701536103180137503955397371]⟩,
      ⟨205115282021455665897114700593932402728804164701536103180137503955397371, 2,
        [255515944373312847190720520512484175977]⟩,
      ⟨255515944373312847190720520512484175977, 2, [107590001, 7240687, 96557]⟩,
      ⟨107590001, 2, [53, 29, 7]⟩] := by
  decide +kernel

theorem prime_fieldPrime : fieldPrime.Prime := by
  have hsmall : ∀ q ∈ [7240687, 96557, 53, 29, 7], q.Prime := by norm_num
  exact chain_fieldPrime.prime hsmall fieldPrime List.mem_cons_self

theorem chain_groupOrder : Chain [1627771, 28181, 120233, 9349]
    [⟨groupOrder, 2, [341948486974166000522343609283189, 174723607534414371449]⟩,
      ⟨341948486974166000522343609283189, 2, [29047611873442575647497758179]⟩,
      ⟨29047611873442575647497758179, 2, [297159362677, 545358713]⟩,
      ⟨297159362677, 2, [1627771]⟩,
      ⟨545358713, 2, [28181]⟩,
      ⟨174723607534414371449, 2, [44706919, 120233]⟩,
      ⟨44706919, 2, [9349]⟩] := by
  decide +kernel

theorem prime_groupOrder : groupOrder.Prime := by
  have hsmall : ∀ q ∈ [1627771, 28181, 120233, 9349], q.Prime := by norm_num
  exact chain_groupOrder.prime hsmall groupOrder List.mem_cons_self

end OffchainSeal.Curve
