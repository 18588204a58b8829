import OffchainSeal.Proofs.Json.Scan
import OffchainSeal.Toml.Document

/-!
# Strings, keys and ends of lines of TOML

The parts of a line as TOML lets them be written: blanks, a comment, basic strings with any of
their escapes, and keys of one part. The scanners take each of them from the front of a text.

Results:
* `endLine?_of_tail`: the blanks and the comment behind what a line says.
* `string?_of_form`, `exists_stringForm`: basic strings; every text can be written as one.
* `key?_of_form`: keys of one part, up to the sign behind them.
-/

namespace OffchainSeal.Toml

/-! ## Ends of lines -/

/-- Blanks within a line. -/
def AreBlanks (cs : List Char) : Prop :=
  ∀ c ∈ cs, c = ' ' ∨ c = '\t'

/-- What may stand behind that which a line says: blanks and a comment, which has no control
character but the tab. -/
def TailForm (cs : List Char) : Prop :=
  ∃ blanks comment, AreBlanks blanks ∧
    (comment = [] ∨ ∃ t, comment = '#' :: t ∧ ∀ c ∈ t, c = '\t' ∨ 0x20 ≤ c.toNat ∧ c.toNat ≠ 0x7f) ∧
      cs = blanks ++ comment

/-- A line stops in front of `s`, and `rest` are the lines behind it. -/
inductive LineStops : List Char → List Char → Prop
  | lineFeed (rest : List Char) : LineStops ('\n' :: rest) rest
  | carriageReturn (rest : List Char) : LineStops ('\r' :: '\n' :: rest) rest
  | finished : LineStops [] []

theorem isBlank_iff {c : Char} : isBlank c = true ↔ c = ' ' ∨ c = '\t' := by
  simp [isBlank]

theorem isPlain_iff {c : Char} :
    isPlain c = true ↔ c = '\t' ∨ 0x20 ≤ c.toNat ∧ c.toNat ≠ 0x7f := by
  simp [isPlain]

theorem areBlanks_nil : AreBlanks [] := List.forall_mem_nil _

theorem skipBlanks_append {w : List Char} (h : AreBlanks w) (s : List Char) :
    skipBlanks (w ++ s) = skipBlanks s :=
  List.dropWhile_append_of_pos fun c hc => isBlank_iff.mpr (h c hc)

theorem skipBlanks_cons {c : Char} (h : isBlank c = false) (s : List Char) :
    skipBlanks (c :: s) = c :: s :=
  List.dropWhile_cons_of_neg (by rw [h]; decide)

theorem LineStops.skipBlanks_eq {s rest : List Char} (h : LineStops s rest) :
    skipBlanks s = s := by
  cases h <;> rfl

theorem LineStops.skipComment_eq {s rest : List Char} (h : LineStops s rest) :
    skipComment s = s := by
  cases h <;> rfl

theorem LineStops.dropWhile_isPlain {s rest : List Char} (h : LineStops s rest) :
    s.dropWhile isPlain = s := by
  cases h with
  | lineFeed | carriageReturn => exact List.dropWhile_cons_of_neg (by decide)
  | finished => rfl

/-- Where a line stops, its end is taken. -/
theorem LineStops.endLine?_eq {s rest : List Char} (h : LineStops s rest) :
    endLine? s = some rest := by
  unfold endLine?
  rw [h.skipBlanks_eq, h.skipComment_eq]
  cases h <;> rfl

/-- Blanks and a comment are taken with the end of the line. -/
theorem endLine?_of_tail {tail s rest : List Char} (htail : TailForm tail)
    (hs : LineStops s rest) : endLine? (tail ++ s) = some rest := by
  obtain ⟨blanks, comment, hblanks, hcomment, rfl⟩ := htail
  have hskip : endLine? (blanks ++ comment ++ s) = endLine? (comment ++ s) := by
    unfold endLine?
    rw [List.append_assoc, skipBlanks_append hblanks]
  rw [hskip]
  rcases hcomment with rfl | ⟨t, rfl, ht⟩
  · exact hs.endLine?_eq
  · have hplain : skipComment (skipBlanks ('#' :: t ++ s)) = s := by
      rw [List.cons_append, skipBlanks_cons (by decide)]
      change (t ++ s).dropWhile isPlain = s
      rw [List.dropWhile_append_of_pos fun c hc => isPlain_iff.mpr (ht c hc), hs.dropWhile_isPlain]
    unfold endLine?
    rw [hplain]
    cases hs <;> rfl

/-! ## Strings -/

/-- The letters of the short escapes with their characters. -/
def shortEscapes : List (Char × Char) :=
  [('b', '\x08'), ('t', '\t'), ('n', '\n'), ('f', '\x0c'), ('r', '\r'), ('"', '"'), ('\\', '\\')]

/-- The characters are hexadecimal digits, in letters of either case, of a number. -/
def HexForm (ds : List Char) (n : ℕ) : Prop :=
  ∃ vs, List.Forall₂ Hex.IsDigit ds vs ∧ vs.foldl (fun n v => 16 * n + v) 0 = n

/-- What follows the backslash of an escape. -/
inductive EscapeForm : List Char → Char → Prop
  | short {letter c : Char} : (letter, c) ∈ shortEscapes → EscapeForm [letter] c
  | four {ds : List Char} {c : Char} : ds.length = 4 → HexForm ds c.toNat → EscapeForm ('u' :: ds) c
  | eight {ds : List Char} {c : Char} : ds.length = 8 → HexForm ds c.toNat →
      EscapeForm ('U' :: ds) c

/-- One character of a basic string as it may be written. -/
inductive CharForm : List Char → Char → Prop
  | plain {c : Char} : (c = '\t' ∨ 0x20 ≤ c.toNat ∧ c.toNat ≠ 0x7f) → c ≠ '"' → c ≠ '\\' →
      CharForm [c] c
  | escaped {cs : List Char} {c : Char} : EscapeForm cs c → CharForm ('\\' :: cs) c

/-- The characters of a basic string, one after the other. -/
inductive CharsForm : List Char → List Char → Prop
  | nil : CharsForm [] []
  | cons {cs rest : List Char} {c : Char} {s : List Char} : CharForm cs c → CharsForm rest s →
      CharsForm (cs ++ rest) (c :: s)

/-- A basic string with its marks. -/
def StringForm (cs s : List Char) : Prop :=
  ∃ inner, CharsForm inner s ∧ cs = '"' :: (inner ++ ['"'])

/-- A text without marks and backslashes is written as it stands. -/
theorem StringForm.of_plain {s : List Char}
    (h : ∀ c ∈ s, isPlain c = true ∧ c ≠ '"' ∧ c ≠ '\\') : StringForm ('"' :: (s ++ ['"'])) s := by
  refine ⟨s, ?_, rfl⟩
  induction s with
  | nil => exact .nil
  | cons c s ih =>
    obtain ⟨hplain, hmark, hslash⟩ := h c List.mem_cons_self
    have hrest := ih fun d hd => h d (List.mem_cons_of_mem _ hd)
    exact .cons (.plain (isPlain_iff.mp hplain) hmark hslash) hrest

theorem codePoint?_of_digits {ds : List Char} {vs : List ℕ} (h : List.Forall₂ Hex.IsDigit ds vs)
    (value : ℕ) {c : Char} (hc : vs.foldl (fun n v => 16 * n + v) value = c.toNat)
    (rest : List Char) : codePoint? ds.length value (ds ++ rest) = some (c, rest) := by
  -- `value` is the number of the digits before
  induction h generalizing value with
  | nil =>
    have hvalid : value.isValidChar := by
      change value = c.toNat at hc
      rw [hc]
      exact c.valid
    change (if value.isValidChar then some (Char.ofNat value, rest) else none) = _
    rw [if_pos hvalid, show value = c.toNat from hc, Char.ofNat_toNat]
  | @cons d v ds vs hd _ ih =>
    have hdigit := Json.digitValue?_eq_some_iff.mpr hd
    change (do codePoint? ds.length (16 * value + (← Text.digitValue? 16 d)) (ds ++ rest)) = _
    rw [hdigit]
    exact ih _ hc

/-- An escape is taken from behind its backslash. -/
theorem escaped?_of_form {cs : List Char} {c : Char} (h : EscapeForm cs c) (rest : List Char) :
    escaped? (cs ++ rest) = some (c, rest) := by
  cases h with
  | short h =>
    simp only [shortEscapes, List.mem_cons, List.not_mem_nil, or_false, Prod.mk.injEq] at h
    rcases h with ⟨rfl, rfl⟩ | ⟨rfl, rfl⟩ | ⟨rfl, rfl⟩ | ⟨rfl, rfl⟩ | ⟨rfl, rfl⟩ | ⟨rfl, rfl⟩ |
      ⟨rfl, rfl⟩ <;> rfl
  | four hlen h =>
    obtain ⟨vs, hds, hc⟩ := h
    have hcode := codePoint?_of_digits hds 0 hc rest
    rw [hlen] at hcode
    exact hcode
  | eight hlen h =>
    obtain ⟨vs, hds, hc⟩ := h
    have hcode := codePoint?_of_digits hds 0 hc rest
    rw [hlen] at hcode
    exact hcode

/-- A character that cannot stand for itself has an escape. -/
theorem exists_charForm (c : Char) : ∃ cs, CharForm cs c := by
  by_cases hmark : c = '"'
  · exact ⟨['\\', '"'], .escaped (.short (by rw [hmark]; decide))⟩
  by_cases hslash : c = '\\'
  · exact ⟨['\\', '\\'], .escaped (.short (by rw [hslash]; decide))⟩
  by_cases hplain : c = '\t' ∨ 0x20 ≤ c.toNat ∧ c.toNat ≠ 0x7f
  · exact ⟨_, .plain hplain hmark hslash⟩
  have hlt : c.toNat < 128 := by
    have := not_or.mp hplain
    omega
  have hdigit : ∀ v < 16, Hex.IsDigit (Char.ofNat (Hex.digit v).toNat) v :=
    fun v hv => Hex.isDigit_digit hv
  have hhex : HexForm ([0, 0, c.toNat / 16, c.toNat % 16].map fun v =>
      Char.ofNat (Hex.digit v).toNat) c.toNat := by
    refine ⟨[0, 0, c.toNat / 16, c.toNat % 16], ?_, ?_⟩
    · exact .cons (hdigit _ (by omega)) (.cons (hdigit _ (by omega))
        (.cons (hdigit _ (by omega)) (.cons (hdigit _ (by omega)) .nil)))
    · simp only [List.foldl_cons, List.foldl_nil]
      omega
  exact ⟨_, .escaped (.four rfl hhex)⟩

/-- Every text can be written as a basic string. -/
theorem exists_stringForm (s : List Char) : ∃ cs, StringForm cs s := by
  have hchars : ∃ inner, CharsForm inner s := by
    induction s with
    | nil => exact ⟨[], .nil⟩
    | cons c s ih =>
      obtain ⟨inner, hinner⟩ := ih
      obtain ⟨cs, hcs⟩ := exists_charForm c
      exact ⟨cs ++ inner, .cons hcs hinner⟩
  obtain ⟨inner, hinner⟩ := hchars
  exact ⟨_, inner, hinner, rfl⟩

theorem basicString?_mark (rest : List Char) : basicString? ('"' :: rest) = some ([], rest) := by
  rw [basicString?, if_pos rfl]

theorem basicString?_plain {c : Char} (hc : isPlain c = true) (hmark : c ≠ '"')
    (hslash : c ≠ '\\') (rest : List Char) :
    basicString? (c :: rest) = (basicString? rest).map fun r => (c :: r.1, r.2) := by
  rw [basicString?, if_neg hmark, if_neg hslash, if_pos hc]

theorem basicString?_escaped {s rest : List Char} {c : Char} (h : escaped? s = some (c, rest)) :
    basicString? ('\\' :: s) = (basicString? rest).map fun r => (c :: r.1, r.2) := by
  rw [basicString?, if_neg (by decide), if_pos rfl]
  split
  · next hnone =>
    rw [h] at hnone
    cases hnone
  · next hsome =>
    rw [h] at hsome
    cases hsome
    rfl

/-- The characters of a basic string are taken up to its closing mark. -/
theorem basicString?_of_form {inner s : List Char} (h : CharsForm inner s) (rest : List Char) :
    basicString? (inner ++ '"' :: rest) = some (s, rest) := by
  induction h with
  | nil => exact basicString?_mark rest
  | cons hchar _ ih =>
    rw [List.append_assoc]
    cases hchar with
    | plain hc hmark hslash =>
      rw [List.singleton_append, basicString?_plain (isPlain_iff.mpr hc) hmark hslash, ih]
      rfl
    | escaped hcs =>
      rw [List.cons_append, basicString?_escaped (escaped?_of_form hcs _), ih]
      rfl

theorem string?_of_mark {t : List Char} (h : ∀ r, t ≠ '"' :: '"' :: r) :
    string? ('"' :: t) = basicString? t := by
  unfold string?
  split
  · next heq => cases heq; exact absurd rfl (h _)
  · next heq => cases heq
  · next heq => cases heq; rfl
  · next heq => cases heq
  · next hbasic _ => exact absurd rfl (hbasic t)

/-- A basic string in front of no further mark is taken as one. -/
theorem string?_of_form {cs s rest : List Char} (h : StringForm cs s)
    (hrest : ∀ r, rest ≠ '"' :: r) : string? (cs ++ rest) = some (s, rest) := by
  obtain ⟨inner, hinner, rfl⟩ := h
  have hmarks : ∀ r, inner ++ '"' :: rest ≠ '"' :: '"' :: r := by
    intro r
    cases hinner with
    | nil =>
      intro heq
      exact hrest r (List.cons.inj heq).2
    | cons hchar _ =>
      cases hchar with
      | plain _ hmark _ => exact fun heq => hmark (List.cons.inj heq).1
      | escaped _ => exact fun heq => absurd (List.cons.inj heq).1 (by decide)
  rw [List.cons_append, List.append_assoc, List.singleton_append, string?_of_mark hmarks]
  exact basicString?_of_form hinner rest

/-! ## Keys -/

/-- A key of one part: a bare word or a basic string. -/
inductive KeyForm : List Char → List Char → Prop
  | bare {name : List Char} : name ≠ [] → (∀ c ∈ name, isKeyChar c = true) → KeyForm name name
  | quoted {cs name : List Char} : StringForm cs name → KeyForm cs name

/-- The first character of a key: the mark of a string or a character of a word. -/
theorem KeyForm.exists_cons {cs name : List Char} (h : KeyForm cs name) :
    ∃ c t, cs = c :: t ∧ (c = '"' ∨ isKeyChar c = true) := by
  cases h with
  | bare hne hname =>
    obtain ⟨c, t, rfl⟩ := List.exists_cons_of_ne_nil hne
    exact ⟨c, t, rfl, .inr (hname c List.mem_cons_self)⟩
  | quoted h =>
    obtain ⟨inner, -, rfl⟩ := h
    exact ⟨'"', inner ++ ['"'], rfl, .inl rfl⟩

/-- No character that begins neither a string nor a word begins a key. -/
theorem KeyForm.head_ne {cs name : List Char} (h : KeyForm cs name) {d : Char} (hmark : d ≠ '"')
    (hd : isKeyChar d = false) (rest t : List Char) : cs ++ rest ≠ d :: t := by
  obtain ⟨c, t', rfl, hc | hc⟩ := h.exists_cons
  · rw [hc]
    exact fun heq => hmark (List.cons.inj heq).1.symm
  · intro heq
    rw [(List.cons.inj heq).1, hd] at hc
    cases hc

theorem KeyForm.skipBlanks_append_eq {cs name : List Char} (h : KeyForm cs name)
    (rest : List Char) : skipBlanks (cs ++ rest) = cs ++ rest := by
  obtain ⟨c, t, rfl, hc | hc⟩ := h.exists_cons
  · rw [hc]
    rfl
  · refine skipBlanks_cons (Bool.eq_false_iff.mpr fun hblank => ?_) _
    rcases isBlank_iff.mp hblank with rfl | rfl <;> cases hc

theorem keyPart?_of_word {c : Char} {t : List Char} (hc : isKeyChar c = true) :
    keyPart? (c :: t) =
      some ((c :: t).takeWhile isKeyChar, (c :: t).drop ((c :: t).takeWhile isKeyChar).length) := by
  have hword : ((c :: t).takeWhile isKeyChar).isEmpty = false := by
    rw [List.takeWhile_cons_of_pos hc]
    rfl
  unfold keyPart?
  split
  · next heq => cases heq; exact absurd hc (by decide)
  · next heq => cases heq; exact absurd hc (by decide)
  · dsimp only
    rw [hword]
    rfl

/-- A key is taken up to a character that no bare word has. -/
theorem keyPart?_of_form {cs name : List Char} (h : KeyForm cs name) {d : Char}
    (hd : isKeyChar d = false) (rest : List Char) :
    keyPart? (cs ++ d :: rest) = some (name, d :: rest) := by
  cases h with
  | bare hne hname =>
    obtain ⟨c, t, rfl⟩ := List.exists_cons_of_ne_nil hne
    have hword : (c :: t ++ d :: rest).takeWhile isKeyChar = c :: t := by
      rw [List.takeWhile_append_of_pos hname, List.takeWhile_cons_of_neg (by rw [hd]; decide),
        List.append_nil]
    rw [List.cons_append, keyPart?_of_word (hname c List.mem_cons_self), ← List.cons_append, hword,
      List.drop_left]
  | quoted h =>
    obtain ⟨inner, hinner, rfl⟩ := h
    have hbasic := basicString?_of_form hinner (d :: rest)
    simp only [List.cons_append, List.append_assoc]
    exact hbasic

/-- A key of one part, with blanks around it, is taken up to the sign behind it. -/
theorem key?_of_form {front cs back name : List Char} (hfront : AreBlanks front)
    (h : KeyForm cs name) (hback : AreBlanks back) {sign : Char} (hsign : sign = '=' ∨ sign = ']')
    (rest : List Char) :
    key? (front ++ (cs ++ (back ++ sign :: rest))) = some ([name], sign :: rest) := by
  have hblank : isBlank sign = false := by
    rcases hsign with rfl | rfl <;> rfl
  have hdot : sign ≠ '.' := by
    rcases hsign with rfl | rfl <;> decide
  obtain ⟨d, t, hdt, hd⟩ : ∃ d t, back ++ sign :: rest = d :: t ∧ isKeyChar d = false := by
    cases back with
    | nil => exact ⟨sign, rest, rfl, by rcases hsign with rfl | rfl <;> decide⟩
    | cons d t =>
      refine ⟨d, t ++ sign :: rest, rfl, ?_⟩
      rcases hback d List.mem_cons_self with rfl | rfl <;> decide
  have hpart : keyPart? (skipBlanks (front ++ (cs ++ (back ++ sign :: rest)))) =
      some (name, back ++ sign :: rest) := by
    rw [skipBlanks_append hfront, h.skipBlanks_append_eq, hdt]
    exact keyPart?_of_form h hd t
  have hrest : skipBlanks (back ++ sign :: rest) = sign :: rest := by
    rw [skipBlanks_append hback, skipBlanks_cons hblank]
  have hparts :
      keyParts? (front ++ (cs ++ (back ++ sign :: rest))) = some ([name], sign :: rest) := by
    rw [keyParts?, hpart]
    simp only [Option.bind_eq_bind, Option.bind_some, hrest]
    split
    · next heq => exact absurd (List.cons.inj heq).1 hdot
    · rfl
  unfold key?
  rw [hparts]
  rfl

end OffchainSeal.Toml
