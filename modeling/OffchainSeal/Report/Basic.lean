import OffchainSeal.Content.Document
import OffchainSeal.Report.Format
import OffchainSeal.Report.Grid

/-!
# Reports

What a run that ended well has to tell, in each of the three formats.
-/

namespace OffchainSeal

/-- The texts of a key pair; the private key only of a new one. -/
structure KeyTexts where
  plain : String
  typed : String
  wif : Option String
  deriving DecidableEq, Repr

/-- The result of a run. -/
inductive Report where
  /-- Keys, of the command `command`. -/
  | keys (command : String) (texts : KeyTexts)
  /-- The key material shared with a peer. -/
  | secret (peer cipherKey tagKey : String)
  /-- A sealed envelope in hexadecimal. -/
  | sealed (kind : Content.Kind) (envelope : String)
  /-- The content of an envelope. -/
  | opened (content : Content)

namespace Report

/-- The name of the command that reports. -/
def command : Report → String
  | keys command _ => command
  | secret .. => "secret"
  | sealed .. => "encrypt"
  | opened _ => "decrypt"

/-! ## Bare values -/

/-- The bare values. -/
def bare : Report → String
  | keys _ texts =>
    match texts.wif with
    | some wif => s!"{wif}\n{texts.plain}"
    | none => texts.plain
  | secret _ cipherKey tagKey => cipherKey ++ tagKey
  | sealed _ envelope => envelope
  | opened content => content.toJson

/-! ## Tables -/

/-- Names and values under their header. -/
def propertyGrid (rows : List (String × String)) : Grid where
  header := ["Property", "Value"]
  rows := rows.map fun r => [r.1, r.2]

/-- The present fields of content, in the order of their names. -/
def sortedFields (content : Content) : List (String × String) :=
  content.toRow.present.mergeSort fun a b => decide (a.1 ≤ b.1)

/-- The table of a report. An envelope stands alone, so that it can be passed on. -/
def table : Report → String
  | keys _ texts =>
    let wif := texts.wif.toList.map fun wif => ("Private Key (WIF)", wif)
    (propertyGrid
      (wif ++ [("Public Key", texts.plain), ("Public Key (K1)", texts.typed)])).render
  | secret peer cipherKey tagKey =>
    (propertyGrid [("Peer", peer), ("Cipher Key", cipherKey), ("MAC Key", tagKey)]).render
  | sealed _ envelope => envelope
  | opened content =>
    (propertyGrid (("content_type", content.kind.name) :: sortedFields content)).render

/-! ## Documents -/

/-- The data of a report. -/
def data : Report → Json.Value
  | keys _ texts =>
    .object
      ([("public_key", .text texts.plain), ("public_key_k1", .text texts.typed)] ++
        texts.wif.toList.map fun wif => ("private_key", .text wif))
  | secret peer cipherKey tagKey =>
    .object [("peer", .text peer), ("cipher_key", .text cipherKey), ("mac_key", .text tagKey)]
  | sealed kind envelope =>
    .object [("content_type", .text kind.name), ("content", .text envelope)]
  | opened content =>
    .object [("content_type", .text content.kind.name), ("content", content.toDocument)]

/-- The document of a report made at a time. -/
def document (time : String) (r : Report) : Json.Value :=
  .object
    [("success", .boolean true), ("data", r.data), ("timestamp", .text time),
      ("command", .text r.command)]

/-! ## All formats -/

/-- The text of a report made at a time. -/
def render (format : Format) (time : String) (r : Report) : String :=
  match format with
  | .table => r.table
  | .json => (r.document time).render
  | .quiet => r.bare

end Report
end OffchainSeal
