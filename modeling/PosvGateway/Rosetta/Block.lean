import PosvGateway.Rosetta.Operation

/-!
# Blocks

The Rosetta view of a block, its identifier, and the partial identifier by which a client asks for
one.
-/

namespace PosvGateway

/-- A block by its number and its hash. -/
structure BlockIdentifier where
  index : Int
  hash : String
  deriving DecidableEq, Repr

namespace BlockIdentifier

/-- Reads an identifier. -/
def reader : Reader BlockIdentifier :=
  (BlockIdentifier.mk <$> .required "index" Reader.int64 <*> .required "hash" Reader.text :
    Fields BlockIdentifier).record

/-- An identifier in JSON. -/
def toJson (b : BlockIdentifier) : Json :=
  .mkObject [("index", .int b.index), ("hash", .string b.hash)]

end BlockIdentifier

/-- A block by its number, its hash, or neither. -/
structure PartialBlockIdentifier where
  index : Option Int := none
  hash : Option String := none
  deriving DecidableEq, Repr

/-- Reads a partial identifier. -/
def PartialBlockIdentifier.reader : Reader PartialBlockIdentifier :=
  (PartialBlockIdentifier.mk <$> .optional "index" Reader.int64 <*> .optional "hash" Reader.text :
    Fields PartialBlockIdentifier).record

/-- A block. -/
structure Block where
  identifier : BlockIdentifier
  parent : BlockIdentifier
  /-- Milliseconds since the Unix epoch. -/
  timestamp : Int
  transactions : List Transaction
  metadata : Option Json.Members := none

/-- A block in JSON. -/
def Block.toJson (b : Block) : Json :=
  .ofFields
    [("block_identifier", some b.identifier.toJson),
      ("parent_block_identifier", some b.parent.toJson), ("timestamp", some (.int b.timestamp)),
      ("transactions", some (.array (b.transactions.map Transaction.toJson))),
      ("metadata", b.metadata.map .object)]

end PosvGateway
