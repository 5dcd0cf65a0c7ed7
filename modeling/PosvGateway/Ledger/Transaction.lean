import PosvGateway.Json.Scalars

/-!
# Transactions and receipts

Transactions as the node lists them in a block or in its pool, the part of a block that lists them,
and the receipts of their execution.
-/

namespace PosvGateway

/-- A transaction as the node reports it. -/
structure LedgerTransaction where
  hash : Digest
  /-- The sender. -/
  sender : Address
  /-- The recipient; a transaction without one creates a contract. -/
  recipient : Option Address
  value : Uint256
  /-- The greatest amount of gas it may use. -/
  gas : UInt64
  gasPrice : Uint256
  input : Bytes
  nonce : UInt64
  deriving DecidableEq

namespace LedgerTransaction

/-- The members of a transaction in JSON. -/
def fields : Fields LedgerTransaction :=
  LedgerTransaction.mk <$> .required "hash" (Reader.octets 32)
    <*> .required "from" (Reader.octets 20)
    <*> .optional "to" (Reader.octets 20)
    <*> .required "value" Reader.uint256
    <*> .required "gas" Reader.quantity
    <*> .required "gasPrice" Reader.uint256
    <*> .defaulted "input" [] Reader.bytes
    <*> .required "nonce" Reader.quantity

/-- Reads a transaction. -/
def reader : Reader LedgerTransaction := fields.record

/-- A transaction in JSON. -/
def toJson (tx : LedgerTransaction) : Json :=
  .mkObject
    [("hash", .octets tx.hash), ("from", .octets tx.sender),
      ("to", .orNull (tx.recipient.map .octets)), ("value", .uint256 tx.value),
      ("gas", .quantity tx.gas), ("gasPrice", .uint256 tx.gasPrice), ("input", .bytes tx.input),
      ("nonce", .quantity tx.nonce)]

end LedgerTransaction

/-- The lists of a block. -/
structure BlockBody where
  transactions : List LedgerTransaction
  uncles : List Digest

namespace BlockBody

/-- The members of a body in JSON. -/
def fields : Fields BlockBody :=
  BlockBody.mk <$> .defaulted "transactions" [] (Reader.list LedgerTransaction.reader)
    <*> .defaulted "uncles" [] (Reader.list (Reader.octets 32))

/-- Reads a body. -/
def reader : Reader BlockBody := fields.record

end BlockBody

/-- What the execution of a transaction cost. -/
structure Receipt where
  status : Option UInt64
  gasUsed : Uint256
  /-- The price that was paid, where the node reports it. -/
  effectiveGasPrice : Option Uint256

namespace Receipt

/-- The members of a receipt in JSON. -/
def fields : Fields Receipt :=
  Receipt.mk <$> .optional "status" Reader.quantity
    <*> .required "gasUsed" Reader.uint256
    <*> .optional "effectiveGasPrice" Reader.uint256

/-- Reads a receipt. -/
def reader : Reader Receipt := fields.record

end Receipt

end PosvGateway
