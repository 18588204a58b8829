import OffchainSeal.Json.Value
import OffchainSeal.Proofs.Json.Items

/-!
# Written documents

What the writer of documents gives is a document of the value it was given.

* `stringForm_quote`: every text can be written, whatever characters it has.
* `denotes_render`: the document of a value.
-/

namespace OffchainSeal.Json

mutual

/-- What the document of a value has to stand for. -/
def Value.toTree : Value → Tree
  | .boolean b => .boolean b
  | .number n => .number (Nat.toDigits 10 n)
  | .text s => .text s.toList
  | .object members => .object (treesOf members)

/-- The members of an object with what they have to stand for. -/
def treesOf : List (String × Value) → List (List Char × Tree)
  | [] => []
  | (name, v) :: members => (name.toList, v.toTree) :: treesOf members

end

/-! ## Strings -/

theorem isDigit_digitChar {n : ℕ} (h : n < 16) : Hex.IsDigit (Nat.digitChar n) n := by
  interval_cases n <;> decide

theorem escapeForm_control {c : Char} (h : c.toNat < 0x20) :
    EscapeForm ['u', '0', '0', Nat.digitChar (c.toNat / 16), Nat.digitChar (c.toNat % 16)] c := by
  have hfour : HexFour ['0', '0', Nat.digitChar (c.toNat / 16), Nat.digitChar (c.toNat % 16)]
      (4096 * 0 + 256 * 0 + 16 * (c.toNat / 16) + c.toNat % 16) :=
    .mk (by decide) (by decide) (isDigit_digitChar (by omega)) (isDigit_digitChar (by omega))
  have hvalue : 4096 * 0 + 256 * 0 + 16 * (c.toNat / 16) + c.toNat % 16 = c.toNat := by omega
  rw [hvalue] at hfour
  have hform := EscapeForm.number hfour (fun hl => by have := hl.1; omega)
    (fun ht => by have := ht.1; omega)
  rw [Char.ofNat_toNat] at hform
  exact hform

theorem charForm_escapeChar (c : Char) : CharForm (escapeChar c) c := by
  unfold escapeChar
  split_ifs with hmark hslash hback hfeed hline hreturn htab hcontrol
  · rw [hmark]
    exact .escaped (.short (by decide))
  · rw [hslash]
    exact .escaped (.short (by decide))
  · rw [hback]
    exact .escaped (.short (by decide))
  · rw [hfeed]
    exact .escaped (.short (by decide))
  · rw [hline]
    exact .escaped (.short (by decide))
  · rw [hreturn]
    exact .escaped (.short (by decide))
  · rw [htab]
    exact .escaped (.short (by decide))
  · exact .escaped (escapeForm_control hcontrol)
  · exact .plain (Nat.not_lt.mp hcontrol) hmark hslash

theorem charsForm_flatMap (s : List Char) : CharsForm (s.flatMap escapeChar) s := by
  induction s with
  | nil => exact .nil
  | cons c s ih => exact .cons (charForm_escapeChar c) ih

/-- Every text can be written as a string. -/
theorem stringForm_quote (s : List Char) : StringForm (quote s) s :=
  ⟨s.flatMap escapeChar, charsForm_flatMap s, rfl⟩

/-! ## Numbers -/

theorem areDigits_toDigits (n : ℕ) : AreDigits (Nat.toDigits 10 n) := by
  refine ⟨Nat.toDigits_ne_nil, fun c hc => ?_⟩
  have hdigit := Nat.isDigit_of_mem_toDigits (by decide) le_rfl hc
  simpa [Char.isDigit, Char.le_def] using hdigit

/-- Only zero begins with a zero. -/
theorem eq_zero_of_head?_toDigits {n : ℕ} (h : (Nat.toDigits 10 n).head? = some '0') : n = 0 := by
  have hdigit : ∀ d < 10, Nat.digitChar d = '0' → d = 0 := by decide
  induction n using Nat.strongRecOn with
  | ind n ih =>
    rcases Nat.lt_or_ge n 10 with hn | hn
    · rw [Nat.toDigits_of_lt_base hn, List.head?_cons, Option.some.injEq] at h
      exact hdigit n hn h
    · rw [Nat.toDigits_of_base_le (by decide) hn, List.head?_append_of_ne_nil _ Nat.toDigits_ne_nil]
        at h
      have := ih (n / 10) (by omega) h
      omega

theorem numberForm_toDigits (n : ℕ) : NumberForm (Nat.toDigits 10 n) := by
  refine ⟨[], Nat.toDigits 10 n, [], [], .inl rfl, areDigits_toDigits n, fun h => ?_, .inl rfl,
    .inl rfl, by simp⟩
  rw [eq_zero_of_head?_toDigits h]
  rfl

/-! ## Objects -/

/-- What stands in front of a line. -/
theorem areBlanks_line (level : ℕ) : AreBlanks ('\n' :: indentation level) := by
  intro c hc
  rcases List.mem_cons.mp hc with rfl | hc
  · exact .inr (.inr (.inl rfl))
  · exact .inl (List.eq_of_mem_replicate hc)

theorem areBlanks_space : AreBlanks [' '] := by
  intro c hc
  exact .inl (List.mem_singleton.mp hc)

theorem memberForm_line {name : String} {cs : List Char} {t : Tree} (h : ValueForm cs t) :
    MemberForm ValueForm (quote name.toList ++ [':', ' '] ++ cs) (name.toList, t) :=
  .mk (stringForm_quote _) ⟨[], [' '], areBlanks_nil, areBlanks_space, rfl⟩ h

mutual

theorem valueForm_renderAt (level : ℕ) : (v : Value) → ValueForm (v.renderAt level) v.toTree
  | .boolean b => by
    cases b
    · exact .false
    · exact .true
  | .number n => .number (numberForm_toDigits n)
  | .text s => .text (stringForm_quote s.toList)
  | .object [] =>
    .object ⟨[], [], areBlanks_nil, areBlanks_nil, rfl⟩ .nil
      ⟨[], [], areBlanks_nil, areBlanks_nil, rfl⟩
  | .object (m :: ms) => by
    obtain ⟨cs, hcs, hform⟩ := separatedForm_renderMembers (level + 1) (m :: ms) (by simp)
    have hvalue := ValueForm.object
      ⟨[], '\n' :: indentation (level + 1), areBlanks_nil, areBlanks_line (level + 1), rfl⟩ hform
      ⟨'\n' :: indentation level, [], areBlanks_line level, areBlanks_nil, rfl⟩
    have hrender : (Value.object (m :: ms)).renderAt level = ([] ++ '\x7b' ::
        '\n' :: indentation (level + 1)) ++ cs ++ (('\n' :: indentation level) ++ ['\x7d']) := by
      rw [Value.renderAt, hcs]
      simp
    rw [hrender]
    exact hvalue

/-- Behind the blanks of the first line, which belong to the opening sign, are the members
with commas between them. -/
theorem separatedForm_renderMembers (level : ℕ) : (ms : List (String × Value)) → ms ≠ [] →
    ∃ cs, renderMembers level ms = indentation level ++ cs ∧
      SeparatedForm (MemberForm ValueForm) cs (treesOf ms)
  | [], h => absurd rfl h
  | [(name, v)], _ => by
    have hmember := @memberForm_line name _ _ (valueForm_renderAt level v)
    refine ⟨_, ?_, .cons hmember .nil⟩
    simp [renderMembers]
  | (name, v) :: m :: ms, _ => by
    have hmember := @memberForm_line name _ _ (valueForm_renderAt level v)
    obtain ⟨cs, hcs, hform⟩ := separatedForm_renderMembers level (m :: ms) (by simp)
    have hcomma : SignForm ',' (',' :: '\n' :: indentation level) :=
      ⟨[], _, areBlanks_nil, areBlanks_line level, rfl⟩
    rw [treesOf] at hform
    cases hform with
    | cons hnext hmore =>
      refine ⟨_, ?_, .cons hmember (.cons hcomma hnext hmore)⟩
      rw [renderMembers, hcs]
      · simp
      · simp

end

/-- What is written is a document of the value. -/
theorem denotes_render (v : Value) : Denotes v.render.toList v.toTree := by
  refine ⟨[], v.renderAt 0, [], areBlanks_nil, valueForm_renderAt 0 v, areBlanks_nil, ?_⟩
  rw [Value.render, String.toList_ofList, List.nil_append, List.append_nil]

end OffchainSeal.Json
