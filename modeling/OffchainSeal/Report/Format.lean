import OffchainSeal.Text.Lowercase

/-!
# Report formats

The forms in which a run tells its result, and their names.
-/

namespace OffchainSeal.Report

/-- The forms of a report. -/
inductive Format where
  /-- A table for people. -/
  | table
  /-- A document for programs. -/
  | json
  /-- The bare values. -/
  | quiet
  deriving DecidableEq, Repr

namespace Format

/-- The name of the format. -/
def name : Format → String
  | table => "table"
  | json => "json"
  | quiet => "quiet"

instance : ToString Format := ⟨name⟩

/-- A text names no format. -/
structure Unknown where
  text : String
  deriving DecidableEq, Repr

/-- The wording of the fault. -/
def Unknown.message (u : Unknown) : String :=
  s!"Unknown output format: {u.text}"

/-- The format that a text names, in letters of either case. -/
def ofString (text : String) : Except Unknown Format :=
  match String.ofList (Text.lowercase text.toList) with
  | "table" => .ok table
  | "json" => .ok json
  | "quiet" => .ok quiet
  | _ => .error ⟨text⟩

/-- The format that a text names, or the table. -/
def ofStringD (text : String) : Format :=
  (ofString text).toOption.getD table

end Format
end OffchainSeal.Report
