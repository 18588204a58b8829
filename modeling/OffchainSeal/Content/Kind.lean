import OffchainSeal.Content.Schema
import OffchainSeal.Text.Lowercase

/-!
# Kinds of content

There are two kinds of content: a request for funds, which the payee sends, and
the record of a finished transfer, which the payer sends. Sealed content does
not say its kind; the two parties agree on it otherwise.
-/

namespace OffchainSeal.Content

/-- The kinds of content. -/
inductive Kind where
  /-- A request for funds. -/
  | fundsRequest
  /-- The record of a transfer. -/
  | transferRecord
  deriving DecidableEq, Repr

namespace Kind

/-- The name on the ledger. -/
def name : Kind → String
  | fundsRequest => "new_funds_content"
  | transferRecord => "record_obt_data_content"

instance : ToString Kind := ⟨name⟩

/-- The name of the record type in messages about documents. -/
def structName : Kind → String
  | fundsRequest => "struct FundsRequest"
  | transferRecord => "struct ObtRecord"

/-- A text, given in lower case, names no kind. -/
structure Unknown where
  lowered : String
  deriving DecidableEq, Repr

/-- The wording of the fault. -/
def Unknown.message (u : Unknown) : String :=
  s!"unknown content type: {u.lowered} (expected new_funds_content or record_obt_data_content)"

/-- The kind that a text names, by its name on the ledger or in short, in letters of
either case. -/
def ofString (text : String) : Except Unknown Kind :=
  let lowered := String.ofList (Text.lowercase text.toList)
  if lowered = "new_funds_content" ∨ lowered = "request" then .ok fundsRequest
  else if lowered = "record_obt_data_content" ∨ lowered = "record" then .ok transferRecord
  else .error ⟨lowered⟩

/-- The fields of each kind. -/
@[reducible] def schema : Kind → Schema
  | fundsRequest =>
    [⟨"payee_public_address", .required⟩, ⟨"amount", .required⟩, ⟨"chain_code", .required⟩,
      ⟨"token_code", .required⟩, ⟨"memo", .optional⟩, ⟨"hash", .optional⟩,
      ⟨"offline_url", .optional⟩]
  | transferRecord =>
    [⟨"payer_public_address", .required⟩, ⟨"payee_public_address", .required⟩,
      ⟨"amount", .required⟩, ⟨"chain_code", .required⟩, ⟨"token_code", .required⟩,
      ⟨"status", .required⟩, ⟨"obt_id", .required⟩, ⟨"memo", .optional⟩,
      ⟨"hash", .optional⟩, ⟨"offline_url", .optional⟩]

end Kind
end OffchainSeal.Content
