import PosvGateway.Gateway.Task
import PosvGateway.Rosetta.Network

/-!
# Endpoints

An endpoint is a path and the shape of the requests to it. Each request but the one for the list of
networks names the network that it is about.
-/

namespace PosvGateway

/-- A request of a client. -/
inductive Request where
  /-- Asks which networks are served. -/
  | networkList
  /-- Asks for a task on a network. -/
  | task (network : NetworkIdentifier) (task : Task)

/-- Where requests are sent to. -/
inductive Endpoint where
  | networkList
  | networkOptions
  | networkStatus
  | accountBalance
  | block
  | blockTransaction
  | mempool
  | mempoolTransaction
  | derive
  | preprocess
  | metadata
  | payloads
  | combine
  | parse
  | hash
  | submit
  | call
  deriving DecidableEq, Repr

namespace Endpoint

/-- Every endpoint. -/
def all : List Endpoint :=
  [.networkList, .networkOptions, .networkStatus, .accountBalance, .block, .blockTransaction,
    .mempool, .mempoolTransaction, .derive, .preprocess, .metadata, .payloads, .combine, .parse,
    .hash, .submit, .call]

/-- The path of an endpoint. -/
def path : Endpoint → String
  | .networkList => "/network/list"
  | .networkOptions => "/network/options"
  | .networkStatus => "/network/status"
  | .accountBalance => "/account/balance"
  | .block => "/block"
  | .blockTransaction => "/block/transaction"
  | .mempool => "/mempool"
  | .mempoolTransaction => "/mempool/transaction"
  | .derive => "/construction/derive"
  | .preprocess => "/construction/preprocess"
  | .metadata => "/construction/metadata"
  | .payloads => "/construction/payloads"
  | .combine => "/construction/combine"
  | .parse => "/construction/parse"
  | .hash => "/construction/hash"
  | .submit => "/construction/submit"
  | .call => "/call"

/-- The endpoint of a path. -/
def ofPath? (path : String) : Option Endpoint := all.find? fun e => e.path = path

/-- The members of a request for a task, after the network. -/
def taskFields : Endpoint → Fields Task
  | .networkList | .networkOptions => pure .networkOptions
  | .networkStatus => pure .networkStatus
  | .accountBalance =>
    (fun account block => .accountBalance account (block.getD {}))
      <$> .required "account_identifier" AccountIdentifier.reader
      <*> .optional "block_identifier" PartialBlockIdentifier.reader
  | .block => Task.block <$> .defaulted "block_identifier" {} PartialBlockIdentifier.reader
  | .blockTransaction =>
    Task.blockTransaction <$> .required "block_identifier" BlockIdentifier.reader
      <*> .required "transaction_identifier" (Reader.wrappedText "hash")
  | .mempool => pure .mempool
  | .mempoolTransaction =>
    Task.mempoolTransaction <$> .required "transaction_identifier" (Reader.wrappedText "hash")
  | .derive => Task.derive <$> .required "public_key" EncodedKey.reader
  | .preprocess =>
    Task.preprocess <$> .required "operations" (Reader.list Operation.reader)
      <*> .optional "metadata" Reader.object
  | .metadata => Task.metadata <$> .defaulted "options" [] Reader.object
  | .payloads =>
    Task.payloads <$> .required "operations" (Reader.list Operation.reader)
      <*> .defaulted "metadata" [] Reader.object
  | .combine =>
    Task.combine <$> .required "unsigned_transaction" Reader.text
      <*> .required "signatures" (Reader.list SignedPayload.reader)
  | .parse =>
    Task.parse <$> .required "signed" Reader.bool <*> .required "transaction" Reader.text
  | .hash => Task.hash <$> .required "signed_transaction" Reader.text
  | .submit => Task.submit <$> .required "signed_transaction" Reader.text
  | .call =>
    Task.call <$> .required "method" Reader.text <*> .defaulted "parameters" [] Reader.object

/-- Reads a request. -/
def reader (endpoint : Endpoint) : Reader Request :=
  match endpoint with
  | .networkList =>
    ((fun _ => .networkList) <$> .optional "metadata" Reader.object : Fields Request).record
  | endpoint =>
    (Request.task <$> .required "network_identifier" NetworkIdentifier.reader
      <*> endpoint.taskFields : Fields Request).record

end Endpoint

end PosvGateway
