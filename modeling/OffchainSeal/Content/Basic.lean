import OffchainSeal.Content.Kind

/-!
# Content

The two payloads as structures, their rows, and their binary form. Reading is
told the kind and has to take all bytes.
-/

namespace OffchainSeal

open Content

/-- A request for funds: what the payee asks for. -/
structure FundsRequest where
  payeePublicAddress : String
  amount : String
  chainCode : String
  tokenCode : String
  memo : Option String
  hash : Option String
  offlineUrl : Option String
  deriving DecidableEq, Repr

/-- The record of a transfer: what the payer reports after sending funds. -/
structure TransferRecord where
  payerPublicAddress : String
  payeePublicAddress : String
  amount : String
  chainCode : String
  tokenCode : String
  status : String
  obtId : String
  memo : Option String
  hash : Option String
  offlineUrl : Option String
  deriving DecidableEq, Repr

/-- A type of payloads of one kind. -/
class Payload (α : Type) where
  /-- The kind of content. -/
  kind : Kind
  /-- The field values in order. -/
  toRow : α → Row kind.schema
  /-- The payload with given field values. -/
  ofRow : Row kind.schema → α

instance : Payload FundsRequest where
  kind := .fundsRequest
  toRow r :=
    .cons r.payeePublicAddress <| .cons r.amount <| .cons r.chainCode <| .cons r.tokenCode <|
      .cons r.memo <| .cons r.hash <| .cons r.offlineUrl .nil
  ofRow
    | .cons payee (.cons amount (.cons chain (.cons token (.cons memo (.cons hash
        (.cons url .nil)))))) => ⟨payee, amount, chain, token, memo, hash, url⟩

instance : Payload TransferRecord where
  kind := .transferRecord
  toRow r :=
    .cons r.payerPublicAddress <| .cons r.payeePublicAddress <| .cons r.amount <|
      .cons r.chainCode <| .cons r.tokenCode <| .cons r.status <| .cons r.obtId <|
      .cons r.memo <| .cons r.hash <| .cons r.offlineUrl .nil
  ofRow
    | .cons payer (.cons payee (.cons amount (.cons chain (.cons token (.cons status
        (.cons obtId (.cons memo (.cons hash (.cons url .nil))))))))) =>
      ⟨payer, payee, amount, chain, token, status, obtId, memo, hash, url⟩

namespace Payload

variable {α : Type} [Payload α]

/-- The binary form. -/
def toBytes (a : α) : Except Wire.Fault Bytes :=
  (toRow a).put.toBytes

/-- The payload of a binary form. -/
def ofBytes (bs : Bytes) : Except Wire.Fault α :=
  ((Row.get (kind α).schema).ofBytes bs).map ofRow

end Payload

/-- A payload of either kind. -/
inductive Content where
  | fundsRequest (request : FundsRequest)
  | transferRecord (record : TransferRecord)
  deriving DecidableEq, Repr

namespace Content

/-- The kind of the payload. -/
def kind : Content → Kind
  | fundsRequest _ => .fundsRequest
  | transferRecord _ => .transferRecord

/-- The field values in order. -/
def toRow : (c : Content) → Row c.kind.schema
  | fundsRequest r => Payload.toRow r
  | transferRecord r => Payload.toRow r

/-- The content of a kind with given field values. -/
def ofRow : (kind : Kind) → Row kind.schema → Content
  | .fundsRequest, row => fundsRequest (Payload.ofRow row)
  | .transferRecord, row => transferRecord (Payload.ofRow row)

/-- The binary form, which does not say the kind. -/
def toBytes : Content → Except Wire.Fault Bytes
  | fundsRequest r => Payload.toBytes r
  | transferRecord r => Payload.toBytes r

/-- The content of a kind that has the given binary form. -/
def ofBytes (kind : Kind) (bs : Bytes) : Except Wire.Fault Content :=
  match kind with
  | .fundsRequest => (Payload.ofBytes bs).map fundsRequest
  | .transferRecord => (Payload.ofBytes bs).map transferRecord

end Content
end OffchainSeal
