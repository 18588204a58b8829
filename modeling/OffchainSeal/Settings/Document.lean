import OffchainSeal.Settings.Basic
import OffchainSeal.Toml.Document

/-!
# Settings in a document

The tables `identity`, `output` and `logging` of a TOML document. Each may be
missing, and each may be an array of its values in their order. Other keys are
ignored; a value of the wrong type is a fault.
-/

namespace OffchainSeal.Settings

open Toml

/-- What a table holds under the given keys. An array holds its elements under the
keys in their order; a date holds nothing under any key. -/
def slots? (keys : List String) : Option Node → Option (List (Option Node))
  | none | some (.scalar (.date _)) => some (keys.map fun _ => none)
  | some (.table _ es) | some (.inline es) => some (keys.map fun k => es.lookup k.toList)
  | some (.array nodes) => some (keys.mapIdx fun i _ => nodes[i]?)
  | some (.tables elements) =>
    some (keys.mapIdx fun i _ => elements.reverse[i]?.map fun es => .table .header es)
  | some _ => none

/-- A text, which may be missing. -/
def text? : Option Node → Option (Option String)
  | none => some none
  | some (.text s) => some (some (String.ofList s))
  | some _ => none

/-- The texts of a table under the given keys. -/
def texts? (keys : List String) (node : Option Node) : Option (List (Option String)) := do
  (← slots? keys node).mapM text?

/-- The settings that a document holds. -/
def ofEntries? (root : Entries) : Option Settings := do
  let identity ← texts? ["private_key", "key_file"] (root.lookup "identity".toList)
  let output ← texts? ["format"] (root.lookup "output".toList)
  let logging ← texts? ["level"] (root.lookup "logging".toList)
  return {
    identity := ⟨identity[0]?.join, identity[1]?.join⟩
    format := output[0]?.join.getD default.format
    level := logging[0]?.join.getD default.level }

/-- The consistent settings of a text. -/
def ofString (text : String) : Except Fault Settings := do
  let some root := document? text.toList | .error .malformed
  let some settings := ofEntries? root | .error .malformed
  settings.check
  return settings

end OffchainSeal.Settings
