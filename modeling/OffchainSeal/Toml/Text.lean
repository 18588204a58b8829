import OffchainSeal.Text.Digits

/-!
# Strings, keys and blanks of TOML

The lexical part of TOML 1.0. Every scanner gives the text after what it took.
-/

namespace OffchainSeal.Toml

/-! ## Blanks -/

/-- A blank within a line. -/
def isBlank (c : Char) : Bool :=
  c = ' ' || c = '\t'

/-- The text after the blanks at its front. -/
def skipBlanks (s : List Char) : List Char :=
  s.dropWhile isBlank

/-- The character may stand in a comment or a string: no control but the tab. -/
def isPlain (c : Char) : Bool :=
  c = '\t' || (0x20 ≤ c.toNat && c.toNat ≠ 0x7f)

/-- The text after the end of a line. -/
def newline? : List Char → Option (List Char)
  | '\n' :: rest => some rest
  | '\r' :: '\n' :: rest => some rest
  | _ => none

/-- The text after a comment, if one begins here. -/
def skipComment : List Char → List Char
  | '#' :: rest => rest.dropWhile isPlain
  | s => s

/-- The text after the rest of a line: blanks, a comment, and the end of the line or
of the text. -/
def endLine? (s : List Char) : Option (List Char) :=
  match skipComment (skipBlanks s) with
  | [] => some []
  | s => newline? s

/-- The text after blanks, comments and ends of lines. -/
def skipLines (s : List Char) : List Char :=
  let s₁ := skipComment (skipBlanks s)
  match newline? s₁ with
  | none => s₁
  | some s₂ => if s₂.length < s.length then skipLines s₂ else s₂
termination_by s.length

/-- The text after blanks and ends of lines. -/
def skipBlankLines : List Char → List Char
  | [] => []
  | '\r' :: '\n' :: rest => skipBlankLines rest
  | c :: rest => if isBlank c || c = '\n' then skipBlankLines rest else c :: rest

/-! ## Strings -/

/-- The character of exactly `n` hexadecimal digits; `value` is that of the digits
before. -/
def codePoint? : Nat → Nat → List Char → Option (Char × List Char)
  | 0, value, s => if value.isValidChar then some (Char.ofNat value, s) else none
  | n + 1, value, c :: rest => do codePoint? n (16 * value + (← Text.digitValue? 16 c)) rest
  | _ + 1, _, [] => none

/-- The character of an escape, after the backslash. -/
def escaped? : List Char → Option (Char × List Char)
  | 'b' :: rest => some ('\x08', rest)
  | 't' :: rest => some ('\t', rest)
  | 'n' :: rest => some ('\n', rest)
  | 'f' :: rest => some ('\x0c', rest)
  | 'r' :: rest => some ('\r', rest)
  | '"' :: rest => some ('"', rest)
  | '\\' :: rest => some ('\\', rest)
  | 'u' :: rest => codePoint? 4 0 rest
  | 'U' :: rest => codePoint? 8 0 rest
  | _ => none

theorem length_codePoint {n value : Nat} {s rest : List Char} {c : Char}
    (h : codePoint? n value s = some (c, rest)) : rest.length ≤ s.length := by
  induction n generalizing value s with
  | zero =>
    unfold codePoint? at h
    split at h
    · simp at h; simp [h.2]
    · simp at h
  | succ n ih =>
    cases s with
    | nil => simp [codePoint?] at h
    | cons d s =>
      simp only [codePoint?, Option.bind_eq_bind, Option.bind_eq_some_iff] at h
      obtain ⟨_, _, h⟩ := h
      exact Nat.le_succ_of_le (ih h)

theorem length_escaped {s rest : List Char} {c : Char} (h : escaped? s = some (c, rest)) :
    rest.length < s.length := by
  unfold escaped? at h
  split at h
  case h_8 => exact Nat.lt_succ_of_le (length_codePoint h)
  case h_9 => exact Nat.lt_succ_of_le (length_codePoint h)
  case h_10 => simp at h
  all_goals
    simp at h
    simp [← h.2]

/-- The characters of a string in double marks on one line, from behind the first
mark. -/
def basicString? : List Char → Option (List Char × List Char)
  | [] => none
  | c :: rest =>
    if c = '"' then some ([], rest)
    else if c = '\\' then
      match h : escaped? rest with
      | none => none
      | some (d, rest') =>
        have := length_escaped h
        (basicString? rest').map fun r => (d :: r.1, r.2)
    else if isPlain c then (basicString? rest).map fun r => (c :: r.1, r.2)
    else none
termination_by s => s.length

/-- The characters of a string in single marks on one line, from behind the first
mark. -/
def literalString? (s : List Char) : Option (List Char × List Char) :=
  let body := s.takeWhile fun c => isPlain c && c ≠ '\''
  match s.drop body.length with
  | '\'' :: rest => some (body, rest)
  | _ => none

/-- The text after a line end that a backslash hides: blanks, the line end, and all
blanks and line ends after it. -/
def hiddenLineEnd? (s : List Char) : Option (List Char) :=
  (newline? (skipBlanks s)).map skipBlankLines

/-- The characters of a string on several lines, from behind the three marks that
open it. Up to two marks may stand before the three that close it; `escapes`
tells whether a backslash has its meaning. -/
def longString? (mark : Char) (escapes : Bool) : List Char → Option (List Char × List Char)
  | [] => none
  | c :: rest =>
    let marks := ((c :: rest).takeWhile (· = mark)).length
    if 3 ≤ marks then
      let inner := min (marks - 3) 2
      some (List.replicate inner mark, (c :: rest).drop (inner + 3))
    else if escapes && c = '\\' then
      match hiddenLineEnd? rest with
      | some rest' =>
        if rest'.length ≤ rest.length then longString? mark escapes rest' else none
      | none =>
        match escaped? rest with
        | none => none
        | some (d, rest') =>
          if rest'.length ≤ rest.length then
            (longString? mark escapes rest').map fun r => (d :: r.1, r.2)
          else none
    else if isPlain c then
      (longString? mark escapes rest).map fun r => (c :: r.1, r.2)
    else
      match newline? (c :: rest) with
      | some rest' =>
        if rest'.length ≤ rest.length then
          (longString? mark escapes rest').map fun r => ('\n' :: r.1, r.2)
        else none
      | none => none
termination_by s => s.length
decreasing_by all_goals simp only [List.length_cons]; omega

/-- A string on several lines, from behind the three marks that open it; a line end
right there does not count. -/
def openLongString? (mark : Char) (escapes : Bool) (s : List Char) :
    Option (List Char × List Char) :=
  longString? mark escapes ((newline? s).getD s)

/-- A string of any of the four forms. -/
def string? : List Char → Option (List Char × List Char)
  | '"' :: '"' :: '"' :: rest => openLongString? '"' true rest
  | '\'' :: '\'' :: '\'' :: rest => openLongString? '\'' false rest
  | '"' :: rest => basicString? rest
  | '\'' :: rest => literalString? rest
  | _ => none

/-! ## Keys -/

/-- The character may stand in a key without marks. -/
def isKeyChar (c : Char) : Bool :=
  ('a' ≤ c && c ≤ 'z') || ('A' ≤ c && c ≤ 'Z') || ('0' ≤ c && c ≤ '9') || c = '-' || c = '_'

/-- One part of a key: a bare word, or a string on one line. -/
def keyPart? : List Char → Option (List Char × List Char)
  | '"' :: rest => basicString? rest
  | '\'' :: rest => literalString? rest
  | s =>
    let word := s.takeWhile isKeyChar
    if word.isEmpty then none else some (word, s.drop word.length)

/-- The parts of a dotted key, with blanks around each. -/
def keyParts? (s : List Char) : Option (List (List Char) × List Char) := do
  let (part, rest) ← keyPart? (skipBlanks s)
  match skipBlanks rest with
  | '.' :: rest' =>
    if rest'.length < s.length then
      let (parts, rest'') ← keyParts? rest'
      return (part :: parts, rest'')
    else none
  | rest' => return ([part], rest')
termination_by s.length

/-- The greatest number of parts of a key. -/
def maxKeyParts : Nat := 79

/-- A dotted key. -/
def key? (s : List Char) : Option (List (List Char) × List Char) := do
  let (parts, rest) ← keyParts? s
  if parts.length ≤ maxKeyParts then return (parts, rest) else none

end OffchainSeal.Toml
