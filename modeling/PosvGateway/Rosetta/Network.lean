import PosvGateway.Json.Scalars

/-!
# Network identifiers

A network is named by the ledger, and by the chain id in decimal digits.
-/

namespace PosvGateway

/-- A network as a client names it. -/
structure NetworkIdentifier where
  blockchain : String
  network : String
  /-- A part of the network. -/
  subNetwork : Option Json := none

namespace NetworkIdentifier

/-- The name of the ledger. -/
def ledgerName : String := "tomochain"

/-- The network of a chain. -/
def ofChain (chain : UInt64) : NetworkIdentifier where
  blockchain := ledgerName
  network := Numeral.decimal chain.toNat

/-- Reads an identifier. -/
def reader : Reader NetworkIdentifier :=
  (NetworkIdentifier.mk <$> .required "blockchain" Reader.text <*> .required "network" Reader.text
    <*> .optional "sub_network_identifier" Reader.json : Fields NetworkIdentifier).record

/-- An identifier in JSON. -/
def toJson (id : NetworkIdentifier) : Json :=
  .ofFields
    [("blockchain", some (.string id.blockchain)), ("network", some (.string id.network)),
      ("sub_network_identifier", id.subNetwork)]

end NetworkIdentifier

end PosvGateway
