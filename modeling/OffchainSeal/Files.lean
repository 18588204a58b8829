import OffchainSeal.Text.Utf8

/-!
# Files

What can go wrong with a file, and a directory tree in memory in which paths
are looked up the way an operating system does.
-/

namespace OffchainSeal

/-- Why a file cannot be read as a text. -/
inductive FileFault where
  | notFound
  | notDirectory
  | isDirectory
  | nameTooLong
  /-- The path holds the character that ends paths. -/
  | nulInPath
  /-- The bytes are not UTF-8. -/
  | notUtf8
  /-- Any other refusal, in the system's words. -/
  | other (text : String)
  deriving DecidableEq, Repr

/-- The wording of a fault. -/
def FileFault.message : FileFault → String
  | .notFound => "No such file or directory (os error 2)"
  | .notDirectory => "Not a directory (os error 20)"
  | .isDirectory => "Is a directory (os error 21)"
  | .nameTooLong => "File name too long (os error 36)"
  | .nulInPath => "file name contained an unexpected NUL byte"
  | .notUtf8 => "stream did not contain valid UTF-8"
  | .other text => text

/-- The text of a file's bytes. -/
def textOfBytes (bs : Bytes) : Except FileFault String :=
  match Utf8.decode bs with
  | .ok s => .ok (String.ofList s)
  | .error _ => .error .notUtf8

/-! ## A directory tree -/

/-- The path from the top of a tree, the last name first. -/
abbrev Place := List String

/-- A tree as the list of its places: files with their bytes, and directories. -/
structure FileTree where
  entries : List (Place × Option Bytes)

namespace FileTree

/-- The tree of the top directory alone. -/
def empty : FileTree := ⟨[]⟩

/-- What stands at a place: nothing, a directory, or a file. -/
def entry? (t : FileTree) (place : Place) : Option (Option Bytes) :=
  if place.isEmpty then some none else t.entries.lookup place

/-- The names in a path, with empty ones for doubled and final slashes. -/
def namesOf (path : String) : List String :=
  (path.toList.splitOn '/').map String.ofList

/-- Walks along names from a place. -/
def walk (t : FileTree) (place : Place) : List String → Except FileFault Place
  | [] => .ok place
  | name :: rest =>
    match t.entry? place with
    | none => .error .notFound
    | some (some _) => .error .notDirectory
    | some none =>
      if 255 < name.utf8ByteSize then .error .nameTooLong
      else if name = "" ∨ name = "." then t.walk place rest
      else if name = ".." then t.walk (place.drop 1) rest
      else if (t.entry? (name :: place)).isNone then .error .notFound
      else t.walk (name :: place) rest

/-- The place that a path leads to. Only the top directory has an absolute path. -/
def resolve (t : FileTree) (path : String) : Except FileFault Place :=
  if path.toList.contains '\x00' then .error .nulInPath
  else if path = "" then .error .notFound
  else if 4096 ≤ path.utf8ByteSize then .error .nameTooLong
  else if path.startsWith "/" && !(path.all (· = '/')) then .error .notFound
  else t.walk [] (namesOf path)

/-- Whether a path leads anywhere. -/
def holds (t : FileTree) (path : String) : Bool :=
  (t.resolve path).isOk

/-- The bytes of the file that a path leads to. -/
def read (t : FileTree) (path : String) : Except FileFault Bytes := do
  match t.entry? (← t.resolve path) with
  | some (some bs) => return bs
  | some none => throw .isDirectory
  | none => throw .notFound

/-- The tree with `node` at the end of `names`, and directories on the way there. -/
def insert (t : FileTree) (path : String) (node : Option Bytes) : FileTree :=
  let names := (namesOf path).filter fun n => n ≠ "" ∧ n ≠ "."
  let places := (List.range names.length).map fun i => (names.take (i + 1)).reverse
  let parents := places.dropLast.filter fun p => (t.entry? p).isNone
  match places.getLast? with
  | none => t
  | some place =>
    ⟨(place, node) :: parents.map (·, none) ++ t.entries.filter fun e => e.1 ≠ place⟩

end FileTree
end OffchainSeal
