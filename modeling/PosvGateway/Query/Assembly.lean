import PosvGateway.Balance
import PosvGateway.Ledger.Seal
import PosvGateway.Query.Reference
import PosvGateway.Reward
import PosvGateway.Trace.Settings

/-!
# Block assembly

`assemble` builds the Rosetta form of one block from the node's replies.

* The block is read as a header and as a body, whose lists must agree with the header's roots.
* The uncles are asked for in one batch. The first block of the ledger ends there: it is its own
  parent and has no transactions.
* For any other block the sealer is recovered, the receipts are asked for in one batch, and the
  traces in one call each or all in one (`TraceSettings.byBlock`).
* At a checkpoint the reward transaction comes first.
* Every operation tells the running balance of its account, opening at the parent block.
-/

namespace PosvGateway

/-- The hash of an empty list of uncles. -/
def emptyUnclesHash : Digest :=
  .ofNat 32 0x1dcc4de8dec75d7aab85b567b6ccd41ad312451b948a7413f0a142fd40d49347

/-- The root of an empty list of transactions. -/
def emptyRoot : Digest :=
  .ofNat 32 0x56e81f171bcc55a6ff8345e692c0f86e5b48e01b996cadc001622fb5e363b421

/-! ### Blocks as the node tells them -/

/-- A number as an integer of 64 bits with a sign; from `2 ^ 63` on it wraps around. -/
def signed64 (n : UInt64) : Int := Int.bmod n.toNat UInt64.size

/-- Milliseconds since the epoch of a header's seconds; beyond the integers of 64 bits, the one at
that end. -/
def timestampMillis (seconds : UInt64) : Int :=
  let millis := signed64 seconds * 1000
  if millis < -0x8000000000000000 then -0x8000000000000000
  else if 0x7fffffffffffffff < millis then 0x7fffffffffffffff
  else millis

namespace Header

/-- The identifier of the block. -/
def identifier (h : Header) : BlockIdentifier := ⟨signed64 h.number, h.hash.toHex⟩

/-- The identifier of the block before it. -/
def parentIdentifier (h : Header) : BlockIdentifier :=
  ⟨signed64 (h.number - 1), h.parentHash.toHex⟩

end Header

/-- The lists of a body are empty exactly where the roots of the header say so. -/
def BlockBody.checkAgainst (body : BlockBody) (header : Header) : Except NodeError Unit :=
  if header.unclesHash = emptyUnclesHash ∧ body.uncles ≠ [] then
    .error (.decode "header indicates no uncles but the block lists some")
  else if header.unclesHash ≠ emptyUnclesHash ∧ body.uncles = [] then
    .error (.decode "header indicates uncles but the block lists none")
  else if header.transactionsRoot = emptyRoot ∧ body.transactions ≠ [] then
    .error (.decode "header indicates no transactions but the block lists some")
  else if header.transactionsRoot ≠ emptyRoot ∧ body.transactions = [] then
    .error (.decode "header indicates transactions but the block lists none")
  else .ok ()

namespace Query

/-- Asks for the header of a block. -/
def header (reference : BlockReference) : Query Header :=
  read Header.reader reference.method [reference.tag, .bool false]

/-- Asks for a block with its transactions. -/
def block (reference : BlockReference) : Query (Header × BlockBody) := do
  let text ← call reference.method [reference.tag, .bool true]
  ofExcept (Except.mapError .node (do
    let header ← Header.reader.decode reference.method.name text
    let body ← BlockBody.reader.decode reference.method.name text
    body.checkAgainst header
    return (header, body)))

/-- Asks for the hashes of the uncles of a block. -/
def uncles (header : Header) (body : BlockBody) : Query (List Digest) :=
  readAll (Fields.required "hash" (Reader.octets 32)).record .uncleByBlockHashAndIndex
    ((List.range body.uncles.length).map fun i =>
      [.octets header.hash, .string (Numeral.hex i)])

/-- Asks for the texts of the receipts of some transactions. -/
def receipts (transactions : List LedgerTransaction) : Query (List String) := do
  let replies ← batch (transactions.map fun tx => ⟨.transactionReceipt, [.octets tx.hash]⟩)
  ofExcept (replies.mapM (Except.mapError .node))

/-! ### Traces -/

/-- Asks for the texts of the traces of some transactions, one after another. -/
def tracesOneByOne (settings : TraceSettings) : List LedgerTransaction → Query (List String)
  | [] => return []
  | tx :: txs => do
    let trace ← call .traceTransaction [.octets tx.hash, settings.tracerParam]
    let traces ← tracesOneByOne settings txs
    return trace :: traces

/-- Reads the traces of a block, which are not opened: each is the result in an entry of a list. -/
def blockTracesReader : Reader (List String) :=
  Reader.list (Fields.required "result" Reader.unopened).record

/-- Reads the traces of a block. -/
def readBlockTraces (text : String) : Except NodeError (List String) :=
  match blockTracesReader.runTo 2 text with
  | .ok traces => .ok traces
  | .error misfit =>
    .error (.decode (Method.traceBlockByHash.name ++ ": " ++ misfit.message))

/-- Asks for the texts of the traces of a block in one call; there must be one for each of its
transactions. -/
def tracesAtOnce (settings : TraceSettings) (block : Digest) (count : Nat) :
    Query (List String) := do
  let text ← call .traceBlockByHash [.octets block, settings.tracerParam]
  let traces ← ofExcept (Except.mapError .node (readBlockTraces text))
  if traces.length = count then return traces
  else throw (.node (.decode ("block " ++ block.toHex ++ " has " ++ Numeral.decimal count
    ++ " transactions but " ++ Numeral.decimal traces.length ++ " traces")))

/-- Asks for the texts of the traces of the transactions of a block; a block without any has no
traces. -/
def traces (settings : TraceSettings) (block : Digest) (transactions : List LedgerTransaction) :
    Query (List String) :=
  if transactions = [] then return []
  else if settings.byBlock then tracesAtOnce settings block transactions.length
  else tracesOneByOne settings transactions

/-! ### Rewards -/

/-- Asks for the reward transaction of a checkpoint. There is none where the node knows no split. -/
def reward (block : Digest) : Query (Option Transaction) := do
  let reply ← Dialogue.call .rewardByHash [.octets block]
  match reply with
  | .error (.notFound _) => return none
  | reply =>
    let rewards ← ofExcept (Except.mapError .node (do Rewards.read (← reply)))
    return rewards.map (Rewards.transaction block)

/-- Asks for the transactions that open a block: the reward transaction of a checkpoint. -/
def openingTransactions (header : Header) : Query (List Transaction) := do
  if isCheckpoint header.number then return (← reward header.hash).toList else return []

end Query

/-! ### Transactions -/

/-- The price of a unit of gas: the one that was paid, where the receipt tells it. -/
def LedgerTransaction.paidPrice (tx : LedgerTransaction) (receipt : Receipt) : Uint256 :=
  receipt.effectiveGasPrice.getD tx.gasPrice

/-- The Rosetta form of a transaction in a block of a sealer, by the texts of its receipt and its
trace. -/
def LedgerTransaction.toRosetta (tx : LedgerTransaction) (miner : Address)
    (receipt trace : String) : Except QueryError Transaction := do
  let parsed ←
    Except.mapError .node (Receipt.reader.decode Method.transactionReceipt.name receipt)
  let executed : Executed :=
    { transaction := tx, sender := tx.sender, miner,
      fee := parsed.gasUsed.saturatingMul (tx.paidPrice parsed), receipt, trace }
  Except.mapError .trace executed.toRosetta

/-- The Rosetta forms of the transactions of a block, by the texts of their receipts and traces. -/
def transactionsToRosetta (miner : Address) :
    List LedgerTransaction → List String → List String → Except QueryError (List Transaction)
  | tx :: txs, receipt :: receipts, trace :: traces => do
    let first ← tx.toRosetta miner receipt trace
    let rest ← transactionsToRosetta miner txs receipts traces
    return first :: rest
  | _, _, _ => .ok []

/-! ### Blocks -/

/-- What a block tells beside its transactions: the hashes of its uncles. -/
def Block.unclesMetadata (uncles : List Digest) : Json.Members :=
  [("uncles", .array (uncles.map .octets))]

namespace Query

/-- Asks for the transactions of a block other than the first. -/
def transactions (settings : TraceSettings) (header : Header) (body : BlockBody) :
    Query (List Transaction) := do
  let miner ← ofExcept (Except.mapError .recovery header.sealer)
  let receipts ← receipts body.transactions
  let traces ← traces settings header.hash body.transactions
  let opening ← openingTransactions header
  let ordinary ← ofExcept (transactionsToRosetta miner body.transactions receipts traces)
  withRunningBalances (opening ++ ordinary) (BlockReference.number (header.number - 1)).tag

/-- Asks for the Rosetta form of a block. -/
def assemble (settings : TraceSettings) (reference : BlockReference) : Query Block := do
  let (header, body) ← block reference
  let uncles ← uncles header body
  let metadata := some (Block.unclesMetadata uncles)
  if header.number = 0 then
    return { identifier := header.identifier, parent := header.identifier,
             timestamp := timestampMillis header.timestamp, transactions := [], metadata }
  else
    let transactions ← transactions settings header body
    return { identifier := header.identifier, parent := header.parentIdentifier,
             timestamp := timestampMillis header.timestamp, transactions, metadata }

end Query

end PosvGateway
