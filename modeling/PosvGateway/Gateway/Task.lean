import PosvGateway.Construction.Workflow
import PosvGateway.Gateway.Failure
import PosvGateway.Query.Mempool
import PosvGateway.Query.Status

/-!
# Tasks

A `Task` is what a client asks of the gateway about one network. `Task.needsNode` tells whether a
gateway without a node can do it, and `Task.perform` does it.
-/

namespace PosvGateway

/-- A dialogue that answers a client or fails. -/
abbrev Answer (α : Type) := ExceptT RosettaError Dialogue α

namespace Answer

variable {α : Type}

/-- Answers with a query. -/
def query (q : Query α) : Answer α :=
  ExceptT.mk (Dialogue.bind q.run fun answer => .done (Except.mapError QueryError.toRosetta answer))

/-- Answers with a step of the construction. -/
def step (s : Construction.Step α) : Answer α :=
  ExceptT.mk (Dialogue.bind s.run fun answer =>
    .done (Except.mapError ConstructionError.toRosetta answer))

/-- Answers without the node. -/
def offline (answer : Except ConstructionError α) : Answer α :=
  ExceptT.mk (.done (Except.mapError ConstructionError.toRosetta answer))

/-- Reads hexadecimal text of a client. -/
def readHex (answer : Except HexError α) : Answer α :=
  ExceptT.mk (.done (Except.mapError (fun e => .because .invalidInput e.message) answer))

end Answer

/-- What a client asks. -/
inductive Task where
  | networkOptions
  | networkStatus
  | accountBalance (account : AccountIdentifier) (block : PartialBlockIdentifier)
  | block (block : PartialBlockIdentifier)
  | blockTransaction (block : BlockIdentifier) (hash : String)
  | mempool
  | mempoolTransaction (hash : String)
  | derive (key : EncodedKey)
  | preprocess (operations : List Operation) (metadata : Option Json.Members)
  | metadata (options : Json.Members)
  | payloads (operations : List Operation) (metadata : Json.Members)
  | combine (unsigned : String) (signatures : List SignedPayload)
  | parse (signed : Bool) (transaction : String)
  | hash (signed : String)
  | submit (signed : String)
  | call (method : String) (parameters : Json.Members)

namespace Task

/-- The task is for a gateway with a node. -/
def needsNode : Task → Bool
  | .networkStatus | .accountBalance .. | .block _ | .blockTransaction .. | .mempool
  | .mempoolTransaction _ | .metadata _ | .submit _ | .call .. => true
  | .networkOptions | .derive _ | .preprocess .. | .payloads .. | .combine .. | .parse ..
  | .hash _ => false

/-! ### What the gateway offers -/

/-- The versions of the interface, of the node and of the gateway. -/
def versions : Json :=
  .mkObject
    [("rosetta_version", .string "1.4.10"), ("node_version", .string "v2.3.0"),
      ("middleware_version", .string "0.1.0")]

/-- A status of operations in JSON. -/
def statusJson (status : String) (successful : Bool) : Json :=
  .mkObject [("status", .string status), ("successful", .bool successful)]

/-- What a client has to expect. -/
def allowed : Json :=
  .mkObject
    [("operation_statuses", .array
        [statusJson OperationStatus.success true, statusJson OperationStatus.fail false]),
      ("operation_types", .array (OperationType.all.map .string)),
      ("errors", .array (RosettaError.catalogue.map RosettaError.toJson)),
      ("historical_balance_lookup", .bool true),
      ("call_methods", .array [.string Method.transactionReceipt.name])]

/-! ### Answers in JSON -/

/-- The status of the node. -/
def statusAnswer (s : StatusReport) : Json :=
  .mkObject
    [("current_block_identifier", s.current.toJson), ("current_block_timestamp", .int s.timestamp),
      ("genesis_block_identifier", s.genesis.toJson), ("sync_status", s.sync.toJson),
      ("peers", .array (s.peers.map Peer.toJson))]

/-- The balance of an account. -/
def balanceAnswer (b : AccountState) : Json :=
  .mkObject
    [("block_identifier", b.block.toJson), ("balances", .array [(Amount.credit b.balance).toJson]),
      ("metadata", .mkObject [("nonce", .nat b.nonce.toNat)])]

/-- The identifier of a transaction. -/
def identifierAnswer (hash : Digest) : Json :=
  .mkObject [("transaction_identifier", .transactionIdentifier hash.toHex)]

/-! ### Performance -/

/-- Does a task for a client of a chain. -/
def perform (trace : TraceSettings) (chain : UInt64) : Task → Answer Json
  | .networkOptions => return .mkObject [("version", versions), ("allow", allowed)]
  | .networkStatus => return statusAnswer (← Answer.query Query.status)
  | .accountBalance account id => do
    let address ← Answer.readHex (Address.read account.address)
    let reference ← Answer.query (Query.ofExcept (BlockReference.ofPartial id))
    return balanceAnswer (← Answer.query (Query.balance address reference))
  | .block id => do
    let reference ← Answer.query (Query.ofExcept (BlockReference.ofPartial id))
    return .mkObject [("block", (← Answer.query (Query.assemble trace reference)).toJson)]
  | .blockTransaction .. => throw { code := .notImplemented }
  | .mempool => do
    let hashes ← Answer.query Query.mempool
    return .mkObject
      [("transaction_identifiers",
        .array (hashes.map fun h => .transactionIdentifier h.toHex))]
  | .mempoolTransaction text => do
    let digest ← Answer.readHex (Hex.decodeOctets 32 text)
    return .mkObject [("transaction", (← Answer.query (Query.mempoolTransaction digest)).toJson)]
  | .derive key => do
    let account ← Answer.offline (Construction.derive key)
    return .mkObject [("account_identifier", account.toJson)]
  | .preprocess operations overrides => do
    let options ← Answer.offline (Construction.preprocess operations overrides)
    return .mkObject [("options", .object options.toMembers)]
  | .metadata options => do
    let options ← Answer.offline (Options.ofMembers options)
    let (found, fee) ← Answer.step (Construction.metadata options)
    return .mkObject
      [("metadata", .object found.toMembers), ("suggested_fee", .array [fee.toJson])]
  | .payloads operations members => do
    let found ← Answer.offline (Metadata.ofMembers members)
    let (unsigned, payload) ← Answer.offline (Construction.payloads operations found chain)
    return .mkObject
      [("unsigned_transaction", .string unsigned), ("payloads", .array [payload.toJson])]
  | .combine unsigned signatures => do
    let signed ← Answer.offline (Construction.combine unsigned signatures chain)
    return .mkObject [("signed_transaction", .string signed)]
  | .parse signed transaction =>
    return (← Answer.offline (Construction.parse transaction signed chain)).toJson
  | .hash signed => return identifierAnswer (← Answer.offline (Construction.hash signed))
  | .submit signed => return identifierAnswer (← Answer.step (Construction.submit signed))
  | .call method parameters => do
    let result ← Answer.query (Query.relay method parameters)
    return .mkObject [("result", .object result), ("idempotent", .bool false)]

end Task

end PosvGateway
