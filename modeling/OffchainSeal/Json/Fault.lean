import OffchainSeal.Json.Number
import OffchainSeal.Text.Quoted

/-!
# Faults of documents

A document is read once from front to back, and the first fault is the one
reported.
-/

namespace OffchainSeal.Json

/-- What stands where another type of value was wanted, as its first token tells. -/
inductive Found where
  | null
  | boolean (b : Bool)
  | number (n : Number)
  | text (s : List Char)
  | array
  | object

/-- The wording of a value of the wrong type. -/
def Found.message : Found → String
  | .null => "null"
  | .boolean b => s!"boolean `{b}`"
  | .number (.integer n) => s!"integer `{n}`"
  | .number (.float x) => s!"floating point `{floatText x}`"
  | .text s => s!"string {Text.quote s}"
  | .array => "sequence"
  | .object => "map"

/-- Why a document is not a row of a schema. -/
inductive Fault where
  /-- The text breaks the grammar of documents, or goes on after the value. -/
  | malformed
  /-- A key names no field. -/
  | unknownField (name : List Char) (fields : List String)
  /-- A key comes a second time. -/
  | duplicateField (name : List Char)
  /-- A required field is not there. -/
  | missingField (name : String)
  /-- A value has the wrong type. -/
  | wrongType (found : Found) (expected : String)
  /-- An array has no element for a required field. -/
  | wrongLength (actual : Nat) (expected : String) (fields : Nat)

/-- The wording of a fault. -/
def Fault.message : Fault → String
  | .malformed => "syntax"
  | .unknownField name fields =>
    let listed := String.intercalate ", " (fields.map fun f => s!"`{f}`")
    s!"unknown field `{String.ofList name}`, expected one of {listed}"
  | .duplicateField name => s!"duplicate field `{String.ofList name}`"
  | .missingField name => s!"missing field `{name}`"
  | .wrongType found expected => s!"invalid type: {found.message}, expected {expected}"
  | .wrongLength actual expected fields =>
    s!"invalid length {actual}, expected {expected} with {fields} elements"

end OffchainSeal.Json
