import PosvGateway.Json.Scalars

/-!
# Block headers

A header as the node reports it. Its hash is taken as reported; all else is what the seal of its
sealer covers.
-/

namespace PosvGateway

/-- A block header. -/
structure Header where
  /-- The hash of the block. -/
  hash : Digest
  parentHash : Digest
  /-- The hash of the list of uncles. -/
  unclesHash : Digest
  miner : Address
  stateRoot : Digest
  transactionsRoot : Digest
  receiptsRoot : Digest
  logsBloom : Octets 256
  difficulty : Uint256
  number : UInt64
  gasLimit : UInt64
  gasUsed : UInt64
  /-- Seconds since the Unix epoch. -/
  timestamp : UInt64
  /-- Free data, with the seal at its end. -/
  extraData : Bytes
  mixHash : Digest
  nonce : Octets 8
  deriving DecidableEq

namespace Header

/-- The members of a header in JSON. -/
def fields : Fields Header :=
  Header.mk <$> .required "hash" (Reader.octets 32)
    <*> .required "parentHash" (Reader.octets 32)
    <*> .required "sha3Uncles" (Reader.octets 32)
    <*> .required "miner" (Reader.octets 20)
    <*> .required "stateRoot" (Reader.octets 32)
    <*> .required "transactionsRoot" (Reader.octets 32)
    <*> .required "receiptsRoot" (Reader.octets 32)
    <*> .required "logsBloom" (Reader.octets 256)
    <*> .required "difficulty" Reader.uint256
    <*> .required "number" Reader.quantity
    <*> .required "gasLimit" Reader.quantity
    <*> .required "gasUsed" Reader.quantity
    <*> .required "timestamp" Reader.quantity
    <*> .required "extraData" Reader.bytes
    <*> .defaulted "mixHash" (Octets.zero 32) (Reader.octets 32)
    <*> .defaulted "nonce" (Octets.zero 8) (Reader.octets 8)

/-- Reads a header. -/
def reader : Reader Header := fields.record

/-- A header in JSON. -/
def toJson (h : Header) : Json :=
  .mkObject
    [("hash", .octets h.hash), ("parentHash", .octets h.parentHash),
      ("sha3Uncles", .octets h.unclesHash), ("miner", .octets h.miner),
      ("stateRoot", .octets h.stateRoot), ("transactionsRoot", .octets h.transactionsRoot),
      ("receiptsRoot", .octets h.receiptsRoot), ("logsBloom", .octets h.logsBloom),
      ("difficulty", .uint256 h.difficulty), ("number", .quantity h.number),
      ("gasLimit", .quantity h.gasLimit), ("gasUsed", .quantity h.gasUsed),
      ("timestamp", .quantity h.timestamp), ("extraData", .bytes h.extraData),
      ("mixHash", .octets h.mixHash), ("nonce", .octets h.nonce)]

end Header

end PosvGateway
