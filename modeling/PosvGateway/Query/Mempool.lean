import PosvGateway.Query.Assembly

/-!
# The transaction pool

Transactions that wait for a block have no receipt and no trace yet. `LedgerTransaction.preview`
shows such a transaction as the movement it asks for.
-/

namespace PosvGateway

/-- The Rosetta form of a transaction that waits for a block: the debit of its sender and, unless it
creates a contract, the credit of its recipient, both without a status. -/
def LedgerTransaction.preview (tx : LedgerTransaction) : Transaction where
  hash := tx.hash.toHex
  operations :=
    Leg.number 0 (Leg.movement OperationType.call none tx.sender tx.recipient tx.value)

namespace Query

/-- Asks for the transactions in the pool; a node without a pool has none. -/
def pendingTransactions : Query (List LedgerTransaction) := do
  let reply ← Dialogue.call .pendingTransactions []
  match reply with
  | .error (.notFound _) => return []
  | reply =>
    ofExcept (Except.mapError .node (do
      (Reader.list LedgerTransaction.reader).decode Method.pendingTransactions.name (← reply)))

/-- Asks for the hashes of the transactions in the pool. -/
def mempool : Query (List Digest) := do
  return (← pendingTransactions).map LedgerTransaction.hash

/-- Asks for a transaction in the pool, with running balances that open at the latest block. -/
def mempoolTransaction (hash : Digest) : Query Transaction := do
  let pending ← pendingTransactions
  match pending.find? fun tx => tx.hash = hash with
  | none => throw (.node (.notFound ("pending transaction " ++ hash.toHex)))
  | some tx =>
    let annotated ← withRunningBalances [tx.preview] BlockReference.latest.tag
    return annotated.headD tx.preview

end Query

end PosvGateway
