import OffchainSeal.Toml.Scalar
import OffchainSeal.Toml.Text

/-!
# Tables of TOML

The tree that a TOML document builds up. Tables remember how they came about,
which decides what may still be added to them.
-/

namespace OffchainSeal.Toml

/-- How a table came about. -/
inductive Origin where
  /-- It has a header of its own. -/
  | header
  /-- It lies on the way to the header of another table. -/
  | implied
  /-- It lies on the way of a dotted key. -/
  | dotted
  deriving DecidableEq, Repr

/-- A value or a table. -/
inductive Node where
  | text (s : List Char)
  | scalar (v : Scalar)
  | array (elements : List Node)
  /-- A table within a value, to which nothing can be added. -/
  | inline (entries : List (List Char × Node))
  | table (origin : Origin) (entries : List (List Char × Node))
  /-- An array of tables with headers, the last one first. -/
  | tables (elements : List (List (List Char × Node)))

/-- The keys of a table and what they hold, in order. -/
abbrev Entries := List (List Char × Node)

/-- The entries with `node` at `key`, in its old place or at the end. -/
def Entries.put (key : List Char) (node : Node) : Entries → Entries
  | [] => [(key, node)]
  | e :: es => if e.1 = key then (key, node) :: es else e :: Entries.put key node es

/-- Changes the table at the end of a path by `f`, which is also told whether that
table came about by a dotted key; `here` tells it of the first table. Missing
tables are made. A path through headers may pass any table and the last one of
an array of tables; a path of a dotted key may not pass a table with a header. -/
def Entries.modify (viaDots : Bool) (f : Bool → Entries → Option Entries) (here : Bool) :
    List (List Char) → Entries → Option Entries
  | [], es => f here es
  | key :: path, es => do
    match es.lookup key with
    | none =>
      let inner ← Entries.modify viaDots f viaDots path []
      return es.put key (.table (if viaDots then .dotted else .implied) inner)
    | some (.table origin inner) =>
      if viaDots && origin = .header then none
      let inner ← Entries.modify viaDots f (origin = .dotted) path inner
      return es.put key (.table origin inner)
    | some (.tables (last :: before)) =>
      let last ← Entries.modify viaDots f false path last
      return es.put key (.tables (last :: before))
    | some _ => none

/-- Adds a key to a table. A dotted key adds to tables made by dotted keys only, a
plain key to none of them. -/
def Entries.assign (path : List (List Char)) (key : List Char) (node : Node)
    (here : Bool) (es : Entries) : Option Entries :=
  Entries.modify true
    (fun isDotted inner =>
      if isDotted = path.isEmpty || (inner.lookup key).isSome then none
      else some (inner.put key node))
    here path es

/-- Opens the table of a header. -/
def Entries.openTable (path : List (List Char)) (key : List Char) (es : Entries) :
    Option Entries :=
  Entries.modify false
    (fun _ inner =>
      match inner.lookup key with
      | none => some (inner.put key (.table .header []))
      | some (.table .implied sub) => some (inner.put key (.table .header sub))
      | some _ => none)
    false path es

/-- Opens one more table of an array of tables. -/
def Entries.openElement (path : List (List Char)) (key : List Char) (es : Entries) :
    Option Entries :=
  Entries.modify false
    (fun _ inner =>
      match inner.lookup key with
      | none => some (inner.put key (.tables [[]]))
      | some (.tables elements) => some (inner.put key (.tables ([] :: elements)))
      | some _ => none)
    false path es

end OffchainSeal.Toml
