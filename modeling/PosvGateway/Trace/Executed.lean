import PosvGateway.Ledger.Transaction
import PosvGateway.Trace.Derivation

/-!
# Executed transactions

A transaction of a block together with what its operations are derived from: who sent it, who
sealed the block, the fee, and the receipt and the trace as the node reports them.

`Executed.toRosetta` is its Rosetta form: the fee pair, the operations of its trace, and the receipt
and the trace as metadata.
-/

namespace PosvGateway

/-- A transaction of a block. -/
structure Executed where
  transaction : LedgerTransaction
  /-- The account that paid. -/
  sender : Address
  /-- The account that sealed the block. -/
  miner : Address
  fee : Uint256
  /-- The text of the receipt. -/
  receipt : String
  /-- The text of the trace. -/
  trace : String

namespace Executed

/-- The legs of the fee: the sender pays, the sealer receives. -/
def feeLegs (tx : Executed) : List Leg :=
  Leg.movement OperationType.fee (some OperationStatus.success) tx.sender (some tx.miner) tx.fee

/-- The two operations every transaction opens with. -/
def feePair (tx : Executed) : List Operation := Leg.number 0 tx.feeLegs

/-- Reads one of the texts of a transaction; `what` names it in the error. -/
def read {α : Type} (tx : Executed) (what : String) (reader : Reader α) (text : String) :
    Except DerivationError α :=
  match reader.run text with
  | .ok a => .ok a
  | .error misfit =>
    .error (.decode (what ++ " of " ++ tx.transaction.hash.toHex ++ ": " ++ misfit.message))

/-- The metadata of a transaction. -/
def metadata (tx : Executed) (receipt trace : Json) : Json.Members :=
  OrderedMap.ofList
    [("gas_limit", .quantity tx.transaction.gas), ("gas_price", .uint256 tx.transaction.gasPrice),
      ("receipt", receipt), ("trace", trace)]

/-- The Rosetta form of a transaction. -/
def toRosetta (tx : Executed) : Except DerivationError Transaction := do
  let root ← tx.read "trace" CallFrame.reader tx.trace
  let receipt ← tx.read "receipt" Reader.json tx.receipt
  let trace ← tx.read "trace" Reader.json tx.trace
  let operations ← operationsOfFrames tx.feePair.length root.flatten
  return { hash := tx.transaction.hash.toHex,
           operations := tx.feePair ++ operations,
           metadata := some (tx.metadata receipt trace) }

end Executed

end PosvGateway
