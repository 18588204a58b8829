import OffchainSeal.Toml.Node

/-!
# Documents of TOML

Values, and the lines of a document: key and value pairs and headers.
-/

namespace OffchainSeal.Toml

/-! ## Values -/

/-- The elements of an array and the text behind its end. A comma may follow the
last element; blanks, comments and line ends may stand anywhere. -/
def elements? (value? : List Char → Option (Node × List Char)) (s : List Char) :
    Option (List Node × List Char) := do
  match skipLines s with
  | ']' :: rest => return ([], rest)
  | s₁ =>
    let (v, s₂) ← value? s₁
    match skipLines s₂ with
    | ']' :: rest => return ([v], rest)
    | ',' :: rest =>
      if rest.length < s.length then
        let (vs, rest') ← elements? value? rest
        return (v :: vs, rest')
      else none
    | _ => none
termination_by s.length

/-- A key, an equals sign and a value. -/
def pair? (value? : List Char → Option (Node × List Char)) (s : List Char) :
    Option ((List (List Char) × Node) × List Char) := do
  let (path, s₁) ← key? s
  match skipBlanks s₁ with
  | '=' :: rest =>
    let (v, s₂) ← value? (skipBlanks rest)
    return ((path, v), s₂)
  | _ => none

/-- The pairs of an inline table, from behind the first brace or a comma, and the
text behind the last brace. -/
def pairs? (value? : List Char → Option (Node × List Char)) (es : Entries) (s : List Char) :
    Option (Entries × List Char) := do
  let ((path, v), s₁) ← pair? value? s
  let key ← path.getLast?
  let es ← es.assign path.dropLast key v false
  match skipBlanks s₁ with
  | '\x7d' :: rest => return (es, rest)
  | ',' :: rest => if rest.length < s.length then pairs? value? es rest else none
  | _ => none
termination_by s.length

/-- How deep arrays and inline tables may lie in each other. -/
def maxDepth : Nat := 79

/-- The value at the front of a text, with arrays and inline tables up to a depth. -/
def value? : Nat → List Char → Option (Node × List Char)
  | depth, s =>
    match depth, s with
    | _, '"' :: _ | _, '\'' :: _ => (string? s).map fun r => (.text r.1, r.2)
    | 0, '[' :: _ | 0, '\x7b' :: _ => none
    | depth + 1, '[' :: rest =>
      (elements? (value? depth) rest).map fun r => (.array r.1, r.2)
    | depth + 1, '\x7b' :: rest =>
      match skipBlanks rest with
      | '\x7d' :: rest' => some (.inline [], rest')
      | _ => (pairs? (value? depth) [] rest).map fun r => (.inline r.1, r.2)
    | _, _ => (scalar? s).map fun r => (.scalar r.1, r.2)

/-! ## Lines -/

/-- The tables so far, and the path of the last header. -/
structure Draft where
  root : Entries
  current : List (List Char)

/-- The draft before the first line. -/
def Draft.empty : Draft := ⟨[], []⟩

/-- Adds a pair to the table of the last header. -/
def Draft.assign (d : Draft) (path : List (List Char)) (v : Node) : Option Draft := do
  let key ← path.getLast?
  let root ← Entries.modify false (Entries.assign path.dropLast key v) false d.current d.root
  return { d with root }

/-- A header, without its first bracket. -/
def header? (d : Draft) (s : List Char) : Option (Draft × List Char) := do
  match s with
  | '[' :: rest =>
    let (path, s₁) ← key? rest
    match s₁ with
    | ']' :: ']' :: s₂ =>
      let key ← path.getLast?
      let root ← d.root.openElement path.dropLast key
      return (⟨root, path⟩, s₂)
    | _ => none
  | _ =>
    let (path, s₁) ← key? s
    match s₁ with
    | ']' :: s₂ =>
      let key ← path.getLast?
      let root ← d.root.openTable path.dropLast key
      return (⟨root, path⟩, s₂)
    | _ => none

/-- One line, with all lines of its value: nothing, a comment, a header or a pair. -/
def line? (d : Draft) (s : List Char) : Option (Draft × List Char) := do
  match skipBlanks s with
  | [] => return (d, [])
  | '[' :: rest =>
    let (d, s) ← header? d rest
    return (d, ← endLine? s)
  | s₁ =>
    match endLine? s₁ with
    | some s₂ => return (d, s₂)
    | none =>
      let ((path, v), s₂) ← pair? (value? maxDepth) s₁
      let d ← d.assign path v
      return (d, ← endLine? s₂)

/-- All lines of a text. -/
def lines? (d : Draft) (s : List Char) : Option Draft := do
  if s.isEmpty then return d
  let (d, rest) ← line? d s
  if rest.length < s.length then lines? d rest else none
termination_by s.length

/-- The tables of a document, which may begin with a byte order mark. -/
def document? (text : List Char) : Option Entries :=
  let s :=
    match text with
    | '\ufeff' :: rest => rest
    | _ => text
  (lines? .empty s).map (·.root)

end OffchainSeal.Toml
