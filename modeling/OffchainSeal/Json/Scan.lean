import OffchainSeal.Json.Fault
import OffchainSeal.Text.Digits

/-!
# Tokens of documents

The strict grammar of RFC 8259, one token at a time. Every scanner gives the
text after what it took.
-/

namespace OffchainSeal.Json

/-! ## Blanks and words -/

/-- The character may stand between tokens. -/
def isBlank (c : Char) : Bool :=
  c = ' ' || c = '\t' || c = '\n' || c = '\r'

/-- The text after the blanks at its front. -/
def skipBlanks (s : List Char) : List Char :=
  s.dropWhile isBlank

/-- The text after `word`, which has to stand at its front. -/
def afterWord? (word s : List Char) : Option (List Char) :=
  if word.isPrefixOf s then some (s.drop word.length) else none

/-! ## Strings -/

/-- The number of four hexadecimal digits. -/
def hexFour? : List Char → Option (Nat × List Char)
  | a :: b :: c :: d :: rest => do
    let a ← Text.digitValue? 16 a
    let b ← Text.digitValue? 16 b
    let c ← Text.digitValue? 16 c
    let d ← Text.digitValue? 16 d
    return (4096 * a + 256 * b + 16 * c + d, rest)
  | _ => none

/-- The character of an escape by number, after the mark `\u`. A leading surrogate
needs a trailing one, in an escape of its own; no other surrogate may come. -/
def escapedNumber? (s : List Char) : Option (Char × List Char) := do
  let (n, rest) ← hexFour? s
  if 0xdc00 ≤ n ∧ n ≤ 0xdfff then none
  else if 0xd800 ≤ n ∧ n ≤ 0xdbff then
    match rest with
    | '\\' :: 'u' :: rest =>
      let (m, rest) ← hexFour? rest
      if 0xdc00 ≤ m ∧ m ≤ 0xdfff then
        return (Char.ofNat (0x10000 + 1024 * (n - 0xd800) + (m - 0xdc00)), rest)
      else none
    | _ => none
  else return (Char.ofNat n, rest)

/-- The character of an escape, after the backslash. -/
def escaped? : List Char → Option (Char × List Char)
  | '"' :: rest => some ('"', rest)
  | '\\' :: rest => some ('\\', rest)
  | '/' :: rest => some ('/', rest)
  | 'b' :: rest => some ('\x08', rest)
  | 'f' :: rest => some ('\x0c', rest)
  | 'n' :: rest => some ('\n', rest)
  | 'r' :: rest => some ('\r', rest)
  | 't' :: rest => some ('\t', rest)
  | 'u' :: rest => escapedNumber? rest
  | _ => none

theorem length_hexFour {s rest : List Char} {n : Nat} (h : hexFour? s = some (n, rest)) :
    rest.length ≤ s.length := by
  unfold hexFour? at h
  split at h
  · simp only [Option.bind_eq_bind, Option.bind_eq_some_iff] at h
    obtain ⟨_, _, _, _, _, _, _, _, h⟩ := h
    simp at h
    simp [← h.2]
    omega
  · simp at h

theorem length_escapedNumber {s rest : List Char} {c : Char}
    (h : escapedNumber? s = some (c, rest)) : rest.length ≤ s.length := by
  unfold escapedNumber? at h
  simp only [Option.bind_eq_bind, Option.bind_eq_some_iff] at h
  obtain ⟨⟨n, rest₁⟩, h₁, h⟩ := h
  have l₁ := length_hexFour h₁
  dsimp only at h
  split at h
  · simp at h
  · split at h
    · split at h
      · simp only [Option.bind_eq_some_iff] at h
        obtain ⟨⟨m, rest₂⟩, h₂, h⟩ := h
        have l₂ := length_hexFour h₂
        dsimp only at h
        split at h
        · simp at h
          simp only [List.length_cons] at l₁
          rw [← h.2]
          omega
        · simp at h
      · simp at h
    · simp at h
      rw [← h.2]
      exact l₁

theorem length_escaped {s rest : List Char} {c : Char} (h : escaped? s = some (c, rest)) :
    rest.length ≤ s.length := by
  unfold escaped? at h
  split at h
  case h_9 => exact Nat.le_succ_of_le (length_escapedNumber h)
  case h_10 => simp at h
  all_goals
    simp at h
    simp [← h.2]

/-- The characters of a string and the text after it, from behind the opening mark. -/
def string? : List Char → Option (List Char × List Char)
  | [] => none
  | c :: rest =>
    if c = '"' then some ([], rest)
    else if c = '\\' then
      match h : escaped? rest with
      | none => none
      | some (d, rest') =>
        have := length_escaped h
        (string? rest').map fun r => (d :: r.1, r.2)
    else if c.toNat < 0x20 then none
    else (string? rest).map fun r => (c :: r.1, r.2)
termination_by s => s.length

theorem length_string {s rest t : List Char} (h : string? s = some (t, rest)) :
    rest.length < s.length := by
  fun_induction string? s generalizing t rest with
  | case1 => simp at h
  | case2 rest₁ => simp at h; simp [h.2]
  | case3 => simp at h
  | case4 rest₁ _ d rest₂ h₁ _ ih =>
    simp only [Option.map_eq_some_iff, Prod.mk.injEq] at h
    obtain ⟨⟨t', r'⟩, h, _, rfl⟩ := h
    have := ih h
    simp
    omega
  | case5 => simp at h
  | case6 c rest₁ _ _ _ ih =>
    simp only [Option.map_eq_some_iff, Prod.mk.injEq] at h
    obtain ⟨⟨t', r'⟩, h, _, rfl⟩ := h
    have := ih h
    simp
    omega

/-! ## Values of any type -/

/-- The type of the value at the front of a text without blanks, by its first
token. -/
def found? (s : List Char) : Option Found :=
  match s with
  | [] => none
  | c :: rest =>
    if c = 'n' then (afterWord? ['u', 'l', 'l'] rest).map fun _ => .null
    else if c = 't' then (afterWord? ['r', 'u', 'e'] rest).map fun _ => .boolean true
    else if c = 'f' then (afterWord? ['a', 'l', 's', 'e'] rest).map fun _ => .boolean false
    else if c = '-' || isDigit c then (number? s).map fun r => .number r.1
    else if c = '"' then (string? rest).map fun r => .text r.1
    else if c = '[' then some .array
    else if c = '\x7b' then some .object
    else none

/-- The fault of a value that should have been `expected`. -/
def wrongType (s : List Char) (expected : String) : Fault :=
  match found? s with
  | none => .malformed
  | some found => .wrongType found expected

end OffchainSeal.Json
