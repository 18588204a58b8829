import OffchainSeal.Content.Basic
import OffchainSeal.Json.Scan
import OffchainSeal.Json.Value

/-!
# Content as a document

A row as a JSON object: one member for each present field, in the order of the
schema. Reading takes the members in any order, refuses unknown and repeated
keys, and takes null for an absent optional field. It also takes an array of
the values in the order of the schema, whose optional end may be left out.
-/

namespace OffchainSeal

open Json

namespace Content

/-! ## Writing -/

/-- The members of a row. -/
def Row.toDocument {fs : Schema} (row : Row fs) : Json.Value :=
  .object (row.present.map fun m => (m.1, .text m.2))

/-! ## Single values -/

/-- A text, which must not be null. -/
def readText (s : List Char) : Except Fault (String × List Char) :=
  let s := skipBlanks s
  match s with
  | '"' :: rest =>
    match string? rest with
    | some (t, rest) => .ok (String.ofList t, rest)
    | none => .error .malformed
  | _ => .error (wrongType s "a string")

/-- A text or null. -/
def readOptionalText (s : List Char) : Except Fault (Option String × List Char) :=
  match skipBlanks s with
  | 'n' :: rest =>
    match afterWord? ['u', 'l', 'l'] rest with
    | some rest => .ok (none, rest)
    | none => .error .malformed
  | s => (readText s).map fun r => (some r.1, r.2)

/-- A value as its presence asks. -/
def readValue (p : Presence) (s : List Char) : Except Fault (p.Value × List Char) :=
  match p with
  | .required => readText s
  | .optional => readOptionalText s

theorem length_skipBlanks (s : List Char) : (skipBlanks s).length ≤ s.length :=
  (List.dropWhile_suffix _).length_le

theorem length_readText {s rest : List Char} {t : String}
    (h : readText s = .ok (t, rest)) : rest.length ≤ s.length := by
  have l := length_skipBlanks s
  unfold readText at h
  dsimp only at h
  split at h
  · next rest₁ e =>
    split at h
    · next h₁ =>
      have := length_string h₁
      simp at h
      simp only [e, List.length_cons] at l
      rw [← h.2]
      omega
    · simp at h
  · simp at h

theorem length_readOptionalText {s rest : List Char} {t : Option String}
    (h : readOptionalText s = .ok (t, rest)) : rest.length ≤ s.length := by
  have l := length_skipBlanks s
  unfold readOptionalText at h
  split at h
  · next rest₁ e =>
    simp only [e, List.length_cons] at l
    split at h
    · next h₁ =>
      simp at h
      unfold afterWord? at h₁
      split at h₁
      · simp at h₁
        rw [← h.2, ← h₁]
        simp only [List.length_drop]
        omega
      · simp at h₁
    · simp at h
  · cases h₁ : readText (skipBlanks s) with
    | error => simp [h₁, Except.map] at h
    | ok r =>
      obtain ⟨t', rest'⟩ := r
      simp [h₁, Except.map] at h
      have := length_readText h₁
      rw [← h.2]
      omega

theorem length_readValue {p : Presence} {s rest : List Char} {v : p.Value}
    (h : readValue p s = .ok (v, rest)) : rest.length ≤ s.length := by
  cases p
  · exact length_readText h
  · exact length_readOptionalText h

/-! ## Objects -/

/-- The members read so far, the last one first; null is no text. -/
abbrev Members := List (List Char × Option String)

/-- The text after the comma in front of a member other than the first. -/
def nextMember? (first : Bool) (s : List Char) : Option (List Char) :=
  if first then some s
  else
    match s with
    | ',' :: rest => some (skipBlanks rest)
    | _ => none

theorem length_nextMember {first : Bool} {s rest : List Char}
    (h : nextMember? first s = some rest) : rest.length ≤ s.length := by
  unfold nextMember? at h
  split at h
  · simp_all
  · split at h
    · simp at h
      have := length_skipBlanks ‹List Char›
      rw [← h]
      simp
      exact Nat.le_succ_of_le (length_skipBlanks _)
    · simp at h

/-- The members of an object up to its end, after those in `seen`. -/
def readMembers (schema : Schema) (seen : Members) (s : List Char) :
    Except Fault (Members × List Char) :=
  match h : skipBlanks s with
  | '\x7d' :: rest => .ok (seen, rest)
  | s₁ =>
    match h₁ : nextMember? seen.isEmpty s₁ with
    | some ('"' :: s₂) =>
      match h₂ : string? s₂ with
      | none => .error .malformed
      | some (key, s₃) =>
        match schema.find? (fun f => f.name.toList = key) with
        | none => .error (.unknownField key (schema.map (·.name)))
        | some f =>
          if seen.any (fun m => m.1 = key) then .error (.duplicateField key)
          else
            match h₃ : skipBlanks s₃ with
            | ':' :: s₄ =>
              match h₄ : readValue f.presence s₄ with
              | .error e => .error e
              | .ok (v, s₅) =>
                have : s₅.length < s.length := by
                  have l := length_skipBlanks s
                  have l₁ := length_nextMember h₁
                  have l₂ := length_string h₂
                  have l₃ := length_skipBlanks s₃
                  have l₄ := length_readValue h₄
                  rw [h] at l
                  rw [h₃] at l₃
                  simp only [List.length_cons] at l₁ l₃
                  omega
                readMembers schema ((key, Presence.Value.toOption v) :: seen) s₅
            | _ => .error .malformed
    | _ => .error .malformed
termination_by s.length

/-- The row of the members of an object. -/
def rowOfMembers (members : Members) : (fs : Schema) → Except Fault (Row fs)
  | [] => .ok .nil
  | f :: fs =>
    match f.presence.ofOption? (members.lookup f.name.toList).join with
    | none => .error (.missingField f.name)
    | some v => (rowOfMembers members fs).map (.cons v)

/-! ## Arrays -/

/-- Where the next element of an array begins, if there is one. -/
def nextElement (first : Bool) (s : List Char) : Except Fault (Option (List Char)) :=
  match skipBlanks s with
  | [] => .error .malformed
  | ']' :: _ => .ok none
  | c :: rest =>
    if first then .ok (some (c :: rest))
    else if c = ',' then
      match skipBlanks rest with
      | [] => .error .malformed
      | ']' :: _ => .error .malformed
      | s => .ok (some s)
    else .error .malformed

/-- The elements of an array for the fields `fs`, of which `index` came before. The
wording for too few elements is `expected`, for `total` fields. -/
def readElements (expected : String) (total : Nat) :
    (index : Nat) → (fs : Schema) → List Char → Except Fault (Row fs × List Char)
  | _, [], s => .ok (.nil, s)
  | index, f :: fs, s => do
    match ← nextElement (index = 0) s with
    | some s =>
      let (v, s) ← readValue f.presence s
      let (row, s) ← readElements expected total (index + 1) fs s
      return (.cons v row, s)
    | none =>
      match f.presence.ofOption? none with
      | none => .error (.wrongLength index expected total)
      | some v =>
        let (row, s) ← readElements expected total (index + 1) fs s
        return (.cons v row, s)

/-! ## Whole documents -/

/-- The row at the front of a text; `expected` names it in messages. -/
def readRow (expected : String) (schema : Schema) (s : List Char) :
    Except Fault (Row schema × List Char) :=
  let s := skipBlanks s
  match s with
  | '\x7b' :: rest => do
    let (members, rest) ← readMembers schema [] rest
    let row ← rowOfMembers members schema
    return (row, rest)
  | '[' :: rest => do
    let (row, rest) ← readElements expected schema.length 0 schema rest
    match skipBlanks rest with
    | ']' :: rest => return (row, rest)
    | _ => throw .malformed
  | _ => .error (wrongType s expected)

/-- The row that a whole text stands for. -/
def Row.ofDocument (expected : String) (schema : Schema) (s : List Char) :
    Except Fault (Row schema) := do
  let (row, rest) ← readRow expected schema s
  if (skipBlanks rest).isEmpty then return row else throw .malformed

/-! ## Content -/

/-- The document of a payload. -/
def toDocument (c : Content) : Json.Value :=
  c.toRow.toDocument

/-- The text of the document. -/
def toJson (c : Content) : String :=
  c.toDocument.render

/-- The content of a kind that a document stands for. -/
def ofJson (kind : Kind) (text : String) : Except Fault Content :=
  (Row.ofDocument kind.structName kind.schema text.toList).map (Content.ofRow kind)

end Content
end OffchainSeal
