import OffchainSeal.Wire.Reader
import OffchainSeal.Wire.Writer

/-!
# Schemas

A schema is a list of named text fields, each required or optional. A row holds
one value for each field. The binary form of a row is the binary forms of its
values in the order of the schema, without names or tags.
-/

namespace OffchainSeal.Content

/-- Whether a field has to be there. -/
inductive Presence where
  | required
  | optional
  deriving DecidableEq, Repr

/-- The values of a field. -/
@[reducible] def Presence.Value : Presence → Type
  | .required => String
  | .optional => Option String

/-- A named field. -/
structure Field where
  name : String
  presence : Presence
  deriving DecidableEq, Repr

/-- The fields in their order. -/
abbrev Schema := List Field

/-- One value for each field of a schema. -/
inductive Row : Schema → Type where
  | nil : Row []
  | cons {f : Field} {fs : Schema} (value : f.presence.Value) (rest : Row fs) : Row (f :: fs)

/-- The value of a field as an optional text. -/
def Presence.Value.toOption : {p : Presence} → p.Value → Option String
  | .required, s => some s
  | .optional, s => s

/-- The value of a field whose text may be missing, if the field admits that. -/
def Presence.ofOption? : (p : Presence) → Option String → Option p.Value
  | .required, s => s
  | .optional, s => some s

namespace Row

/-- The present fields with their texts, in order. -/
def present : {fs : Schema} → Row fs → List (String × String)
  | _, .nil => []
  | f :: _, .cons value rest =>
    match Presence.Value.toOption value with
    | some s => (f.name, s) :: rest.present
    | none => rest.present

/-- Writes a value as its presence asks. -/
def putValue : {p : Presence} → p.Value → Wire.Put Unit
  | .required, s => Wire.putText s
  | .optional, s => Wire.putOptionalText s

/-- Writes all values in order. -/
def put : {fs : Schema} → Row fs → Wire.Put Unit
  | _, .nil => return ()
  | _, .cons value rest => do
    putValue value
    rest.put

/-- Reads a value as its presence asks. -/
def getValue (name : String) : (p : Presence) → Wire.Get p.Value
  | .required => Wire.getText name
  | .optional => Wire.getOptionalText name

/-- Reads all values in order. -/
def get : (fs : Schema) → Wire.Get (Row fs)
  | [] => return .nil
  | f :: fs => do
    let value ← getValue f.name f.presence
    let rest ← get fs
    return .cons value rest

end Row
end OffchainSeal.Content
