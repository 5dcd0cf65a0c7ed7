import PosvGateway.Query.Error
import PosvGateway.Rosetta.Block

/-!
# Block references

A query refers to a block by its number, by its hash, or as the latest one.
-/

namespace PosvGateway

/-- Which block a query refers to. -/
inductive BlockReference where
  | latest
  | number (n : UInt64)
  | hash (h : Digest)
  deriving DecidableEq

namespace BlockReference

/-- The block that a client means. A hash counts before a number; neither means the latest. -/
def ofPartial (id : PartialBlockIdentifier) : Except QueryError BlockReference :=
  match id.hash, id.index with
  | some text, _ =>
    match Hex.decodeOctets 32 text with
    | .ok h => .ok (.hash h)
    | .error e => .error (.invalidInput ("block hash " ++ text ++ ": " ++ e.message))
  | none, some index =>
    if 0 ≤ index then .ok (.number (UInt64.ofNat index.toNat))
    else .error (.invalidInput ("block index " ++ Numeral.signedDecimal index))
  | none, none => .ok .latest

/-- The text by which the node knows the block. -/
def tagText : BlockReference → String
  | .latest => "latest"
  | .number n => Quantity.write n
  | .hash h => h.toHex

/-- The parameter that names the block. -/
def tag (reference : BlockReference) : Json := .string reference.tagText

/-- The method that finds the block. -/
def method : BlockReference → Method
  | .hash _ => .blockByHash
  | _ => .blockByNumber

end BlockReference

end PosvGateway
