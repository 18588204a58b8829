import OffchainSeal.Json.Scan
import OffchainSeal.Proofs.Json.Grammar
import OffchainSeal.Proofs.Text.Blank

/-!
# Scanners and the grammar

Each scanner takes exactly one part of the grammar from the front of a text, whatever
comes after it.

* `skipBlanks_eq_cons_iff`: blanks are dropped up to the next token.
* `string?_iff_stringForm`: strings, from behind the opening mark.
-/

namespace OffchainSeal.Json

/-! ## Blanks and words -/

theorem isBlank_iff {c : Char} : isBlank c = true ↔ c = ' ' ∨ c = '\t' ∨ c = '\n' ∨ c = '\r' := by
  simp [isBlank, or_assoc]

theorem areBlanks_iff {cs : List Char} : AreBlanks cs ↔ ∀ c ∈ cs, isBlank c = true := by
  simp only [AreBlanks, isBlank_iff]

theorem areBlanks_nil : AreBlanks [] := by
  intro c hc
  cases hc

theorem AreBlanks.append {cs cs' : List Char} (h : AreBlanks cs) (h' : AreBlanks cs') :
    AreBlanks (cs ++ cs') := by
  intro c hc
  rcases List.mem_append.mp hc with hc | hc
  · exact h c hc
  · exact h' c hc

theorem skipBlanks_append {w : List Char} (h : AreBlanks w) (s : List Char) :
    skipBlanks (w ++ s) = skipBlanks s :=
  List.dropWhile_append_of_pos (areBlanks_iff.mp h)

theorem skipBlanks_cons {c : Char} (h : isBlank c = false) (s : List Char) :
    skipBlanks (c :: s) = c :: s :=
  List.dropWhile_cons_of_neg (by rw [h]; decide)

theorem skipBlanks_skipBlanks (s : List Char) : skipBlanks (skipBlanks s) = skipBlanks s :=
  List.dropWhile_idempotent _ s

theorem exists_blanks (s : List Char) : ∃ w, AreBlanks w ∧ s = w ++ skipBlanks s := by
  refine ⟨s.takeWhile isBlank, areBlanks_iff.mpr ?_, List.takeWhile_append_dropWhile.symm⟩
  intro c hc
  exact List.mem_takeWhile_imp hc

/-- Up to a token, exactly the blanks before it are dropped. -/
theorem skipBlanks_eq_cons_iff {s rest : List Char} {c : Char} (hc : isBlank c = false) :
    skipBlanks s = c :: rest ↔ ∃ w, AreBlanks w ∧ s = w ++ c :: rest := by
  constructor
  · intro h
    obtain ⟨w, hw, hs⟩ := exists_blanks s
    rw [h] at hs
    exact ⟨w, hw, hs⟩
  · rintro ⟨w, hw, rfl⟩
    rw [skipBlanks_append hw, skipBlanks_cons hc]

/-- All is dropped exactly if all are blanks. -/
theorem skipBlanks_eq_nil_iff {s : List Char} : skipBlanks s = [] ↔ AreBlanks s := by
  rw [areBlanks_iff]
  exact List.dropWhile_eq_nil_iff

theorem afterWord?_eq_some_iff {word s rest : List Char} :
    afterWord? word s = some rest ↔ s = word ++ rest :=
  Text.after?_eq_some_iff

/-! ## Escapes -/

theorem digitValue?_eq_some_iff {c : Char} {n : ℕ} :
    Text.digitValue? 16 c = some n ↔ Hex.IsDigit c n := by
  constructor
  · intro h
    unfold Text.digitValue? at h
    obtain ⟨v, hv, h⟩ := Option.bind_eq_some_iff.mp h
    split_ifs at h with hlt
    rw [Option.some.injEq] at h
    rw [← h]
    have hc : c.toNat = 48 + v ∧ v < 10 ∨ c.toNat = 87 + v ∧ 10 ≤ v ∨
        c.toNat = 55 + v ∧ 10 ≤ v := by
      simp only [Char.le_def, UInt32.le_iff_toNat_le, Char.reduceVal, UInt32.reduceToNat] at hv
      have hval : c.val.toNat = c.toNat := rfl
      split_ifs at hv <;> have := Option.some.inj hv <;> omega
    rw [← Char.ofNat_toNat c]
    rcases hc with ⟨hc, hv⟩ | ⟨hc, hv⟩ | ⟨hc, hv⟩ <;> rw [hc] <;> interval_cases v <;> decide
  · intro h
    have hn := h.lt
    rcases h with h | h <;> interval_cases n <;> cases h <;> decide

theorem hexFour?_eq_some_iff {s rest : List Char} {n : ℕ} :
    hexFour? s = some (n, rest) ↔ ∃ ds, HexFour ds n ∧ s = ds ++ rest := by
  constructor
  · intro h
    unfold hexFour? at h
    split at h
    · simp only [Option.bind_eq_bind, Option.bind_eq_some_iff] at h
      obtain ⟨i, hi, j, hj, k, hk, l, hl, h⟩ := h
      rw [digitValue?_eq_some_iff] at hi hj hk hl
      cases h
      exact ⟨_, .mk hi hj hk hl, rfl⟩
    · cases h
  · rintro ⟨ds, ⟨hi, hj, hk, hl⟩, rfl⟩
    rw [← digitValue?_eq_some_iff] at hi hj hk hl
    simp [hexFour?, hi, hj, hk, hl]

theorem escapedNumber?_of_number {s rest : List Char} {n : ℕ} (h : hexFour? s = some (n, rest))
    (hleading : ¬ IsLeading n) (htrailing : ¬ IsTrailing n) :
    escapedNumber? s = some (Char.ofNat n, rest) := by
  unfold IsLeading at hleading
  unfold IsTrailing at htrailing
  simp [escapedNumber?, h, hleading, htrailing]

theorem escapedNumber?_of_pair {s s' rest : List Char} {n m : ℕ}
    (h : hexFour? s = some (n, '\\' :: 'u' :: s')) (hleading : IsLeading n)
    (h' : hexFour? s' = some (m, rest)) (htrailing : IsTrailing m) :
    escapedNumber? s =
      some (Char.ofNat (0x10000 + 0x400 * (n - 0xd800) + (m - 0xdc00)), rest) := by
  unfold IsLeading at hleading
  unfold IsTrailing at htrailing
  have hn : ¬ (0xdc00 ≤ n ∧ n ≤ 0xdfff) := by omega
  simp [escapedNumber?, h, hn, hleading, h', htrailing]

theorem escapedNumber?_eq_some_iff {s rest : List Char} {c : Char} :
    escapedNumber? s = some (c, rest) ↔ ∃ cs, EscapeForm ('u' :: cs) c ∧ s = cs ++ rest := by
  constructor
  · intro h
    unfold escapedNumber? at h
    simp only [Option.bind_eq_bind, Option.bind_eq_some_iff] at h
    obtain ⟨⟨n, rest₁⟩, hn, h⟩ := h
    obtain ⟨ds, hds, rfl⟩ := hexFour?_eq_some_iff.mp hn
    dsimp only at h
    split_ifs at h with htrailing hleading
    · split at h
      · simp only [Option.bind_eq_some_iff] at h
        obtain ⟨⟨m, rest₃⟩, hm, h⟩ := h
        obtain ⟨ds', hds', rfl⟩ := hexFour?_eq_some_iff.mp hm
        dsimp only at h
        split_ifs at h with htrailing'
        obtain ⟨hc, hrest⟩ := Prod.mk.inj (Option.some.inj h)
        rw [← hc, ← hrest]
        exact ⟨ds ++ '\\' :: 'u' :: ds', .pair hds hleading hds' htrailing', by simp⟩
      · cases h
    · obtain ⟨hc, hrest⟩ := Prod.mk.inj (Option.some.inj h)
      rw [← hc, ← hrest]
      exact ⟨ds, .number hds hleading htrailing, rfl⟩
  · rintro ⟨cs, h, rfl⟩
    cases h with
    | short h => simp [shortEscapes] at h
    | number hds hleading htrailing =>
      exact escapedNumber?_of_number (hexFour?_eq_some_iff.mpr ⟨_, hds, rfl⟩) hleading htrailing
    | pair hds hleading hds' htrailing =>
      rw [List.append_assoc]
      exact escapedNumber?_of_pair (hexFour?_eq_some_iff.mpr ⟨_, hds, rfl⟩) hleading
        (hexFour?_eq_some_iff.mpr ⟨_, hds', rfl⟩) htrailing

theorem escaped?_of_short {letter c : Char} (h : (letter, c) ∈ shortEscapes) (rest : List Char) :
    escaped? (letter :: rest) = some (c, rest) := by
  simp only [shortEscapes, List.mem_cons, List.not_mem_nil, or_false, Prod.mk.injEq] at h
  rcases h with ⟨rfl, rfl⟩ | ⟨rfl, rfl⟩ | ⟨rfl, rfl⟩ | ⟨rfl, rfl⟩ | ⟨rfl, rfl⟩ | ⟨rfl, rfl⟩ |
    ⟨rfl, rfl⟩ | ⟨rfl, rfl⟩ <;> rfl

/-- An escape is read from behind its backslash exactly if it is one. -/
theorem escaped?_eq_some_iff {s rest : List Char} {c : Char} :
    escaped? s = some (c, rest) ↔ ∃ cs, EscapeForm cs c ∧ s = cs ++ rest := by
  constructor
  · intro h
    unfold escaped? at h
    split at h
    case h_9 =>
      obtain ⟨cs, hcs, rfl⟩ := escapedNumber?_eq_some_iff.mp h
      exact ⟨_, hcs, rfl⟩
    case h_10 => cases h
    all_goals
      obtain ⟨rfl, rfl⟩ := Prod.mk.inj (Option.some.inj h)
      exact ⟨[_], .short (by decide), rfl⟩
  · rintro ⟨cs, h, rfl⟩
    cases h with
    | short h => exact escaped?_of_short h rest
    | number hds hleading htrailing =>
      exact escapedNumber?_eq_some_iff.mpr ⟨_, .number hds hleading htrailing, rfl⟩
    | pair hds hleading hds' htrailing =>
      exact escapedNumber?_eq_some_iff.mpr ⟨_, .pair hds hleading hds' htrailing, rfl⟩

/-! ## Strings -/

theorem string?_mark (rest : List Char) : string? ('"' :: rest) = some ([], rest) := by
  rw [string?, if_pos rfl]

theorem string?_plain {c : Char} (hc : 0x20 ≤ c.toNat) (hmark : c ≠ '"') (hslash : c ≠ '\\')
    (rest : List Char) :
    string? (c :: rest) = (string? rest).map fun r => (c :: r.1, r.2) := by
  rw [string?, if_neg hmark, if_neg hslash, if_neg (Nat.not_lt.mpr hc)]

theorem string?_escaped {s rest : List Char} {c : Char} (h : escaped? s = some (c, rest)) :
    string? ('\\' :: s) = (string? rest).map fun r => (c :: r.1, r.2) := by
  rw [string?, if_neg (by decide), if_pos rfl]
  split
  · next hnone =>
    rw [h] at hnone
    cases hnone
  · next hsome =>
    rw [h] at hsome
    cases hsome
    rfl

/-- A string is read from behind its opening mark exactly if it is one. -/
theorem string?_eq_some_iff {s t rest : List Char} :
    string? s = some (t, rest) ↔ ∃ inner, CharsForm inner t ∧ s = inner ++ '"' :: rest := by
  constructor
  · intro h
    fun_induction string? s generalizing t rest with
    | case1 => cases h
    | case2 rest₁ =>
      obtain ⟨rfl, rfl⟩ := Prod.mk.inj (Option.some.inj h)
      exact ⟨[], .nil, rfl⟩
    | case3 => cases h
    | case4 rest₁ _ c hc rest₂ _ ih =>
      obtain ⟨⟨t', rest'⟩, ht, h⟩ := Option.map_eq_some_iff.mp h
      obtain ⟨rfl, rfl⟩ := Prod.mk.inj h
      obtain ⟨inner, hinner, rfl⟩ := ih ht
      obtain ⟨cs, hcs, rfl⟩ := escaped?_eq_some_iff.mp hc
      exact ⟨'\\' :: cs ++ inner, .cons (.escaped hcs) hinner, by simp⟩
    | case5 => cases h
    | case6 c rest₁ hmark hslash hc ih =>
      obtain ⟨⟨t', rest'⟩, ht, h⟩ := Option.map_eq_some_iff.mp h
      obtain ⟨rfl, rfl⟩ := Prod.mk.inj h
      obtain ⟨inner, hinner, rfl⟩ := ih ht
      exact ⟨[c] ++ inner, .cons (.plain (Nat.not_lt.mp hc) hmark hslash) hinner, by simp⟩
  · rintro ⟨inner, hinner, rfl⟩
    induction hinner with
    | nil => exact string?_mark rest
    | cons hchar _ ih =>
      rw [List.append_assoc]
      cases hchar with
      | plain hc hmark hslash =>
        rw [List.singleton_append, string?_plain hc hmark hslash, ih]
        rfl
      | escaped hcs =>
        rw [List.cons_append, string?_escaped (escaped?_eq_some_iff.mpr ⟨_, hcs, rfl⟩), ih]
        rfl

/-- The opening mark and what is read from behind it are one string. -/
theorem string?_iff_stringForm {s t rest : List Char} :
    string? s = some (t, rest) ↔ ∃ cs, StringForm cs t ∧ '"' :: s = cs ++ rest := by
  rw [string?_eq_some_iff]
  constructor
  · rintro ⟨inner, hinner, rfl⟩
    exact ⟨'"' :: inner ++ ['"'], ⟨inner, hinner, rfl⟩, by simp⟩
  · rintro ⟨cs, ⟨inner, hinner, rfl⟩, h⟩
    refine ⟨inner, hinner, ?_⟩
    simpa using h

end OffchainSeal.Json
