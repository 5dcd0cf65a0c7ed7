import PosvGateway.Json.Printer

/-!
# Calls to the node

The gateway reaches the ledger through the JSON-RPC methods of one node. `Method` lists those it
uses, `Call` is one call, and `NodeError` says what may come of it instead of a result.
-/

namespace PosvGateway

/-- A method of the node. -/
inductive Method where
  | chainId
  | blockByNumber
  | blockByHash
  | uncleByBlockHashAndIndex
  | transactionReceipt
  | transactionCount
  | gasPrice
  | estimateGas
  | balance
  | sendRawTransaction
  | traceBlockByHash
  | traceTransaction
  | rewardByHash
  | pendingTransactions
  | syncing
  | peers
  deriving DecidableEq, Repr

namespace Method

/-- The name of a method. -/
def name : Method → String
  | .chainId => "eth_chainId"
  | .blockByNumber => "eth_getBlockByNumber"
  | .blockByHash => "eth_getBlockByHash"
  | .uncleByBlockHashAndIndex => "eth_getUncleByBlockHashAndIndex"
  | .transactionReceipt => "eth_getTransactionReceipt"
  | .transactionCount => "eth_getTransactionCount"
  | .gasPrice => "eth_gasPrice"
  | .estimateGas => "eth_estimateGas"
  | .balance => "eth_getBalance"
  | .sendRawTransaction => "eth_sendRawTransaction"
  | .traceBlockByHash => "debug_traceBlockByHash"
  | .traceTransaction => "debug_traceTransaction"
  | .rewardByHash => "eth_getRewardByHash"
  | .pendingTransactions => "eth_pendingTransactions"
  | .syncing => "eth_syncing"
  | .peers => "admin_peers"

/-- Every method. -/
def all : List Method :=
  [.chainId, .blockByNumber, .blockByHash, .uncleByBlockHashAndIndex, .transactionReceipt,
    .transactionCount, .gasPrice, .estimateGas, .balance, .sendRawTransaction, .traceBlockByHash,
    .traceTransaction, .rewardByHash, .pendingTransactions, .syncing, .peers]

end Method

/-- A call of a method. -/
structure Call where
  /-- The method. -/
  method : Method
  /-- Its parameters. -/
  params : List Json

/-- What may come of a call instead of a result that can be read. -/
inductive NodeError where
  /-- The node was not reached, or did not answer in its protocol. -/
  | transport (detail : String)
  /-- The node has no such thing. -/
  | notFound (what : String)
  /-- The result could not be read. -/
  | decode (detail : String)
  /-- The node refused the call. -/
  | remote (code : Int) (message : String)
  deriving DecidableEq, Repr

/-- The wording of an error. -/
def NodeError.message : NodeError → String
  | .transport detail => "transport error: " ++ detail
  | .notFound what => "not found: " ++ what
  | .decode detail => "decode error: " ++ detail
  | .remote code message =>
    "node returned error " ++ Numeral.signedDecimal code ++ ": " ++ message

/-- What the node answers to a call: the text of the result, which is not null, or an error. -/
abbrev Reply := Except NodeError String

/-- What the node answers to a batch: a reply to each call, or an error of the whole batch. -/
abbrev BatchReply := Except NodeError (List Reply)

end PosvGateway
