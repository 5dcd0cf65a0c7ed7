import PosvGateway.Node.Dialogue
import PosvGateway.Signature
import PosvGateway.Trace.Derivation

/-!
# Queries

A question about the ledger is answered in a dialogue with the node, and may fail: `Query α` is
such a dialogue and `QueryError` says why it failed.
-/

namespace PosvGateway

/-- Why a query could not be answered. -/
inductive QueryError where
  /-- The node gave no answer that could be read. -/
  | node (e : NodeError)
  /-- The sealer of a block could not be found. -/
  | recovery (e : SignatureError)
  /-- A trace yields no operations. -/
  | trace (e : DerivationError)
  /-- The node has no recent block yet. -/
  | nodeNotReady (detail : String)
  /-- The query makes no sense. -/
  | invalidInput (detail : String)
  /-- The parameters of a call make no sense. -/
  | invalidCallParameters (detail : String)
  /-- There is no such call. -/
  | unsupportedCall (method : String)
  /-- The output of a call is no object. -/
  | unencodableOutput (detail : String)
  /-- Work was abandoned. -/
  | task (detail : String)
  deriving DecidableEq

/-- The wording of an error. -/
def QueryError.message : QueryError → String
  | .node e => e.message
  | .recovery e => "sealer recovery failed: " ++ e.message
  | .trace e => "operation derivation failed: " ++ e.message
  | .nodeNotReady detail => "node is not ready: " ++ detail
  | .invalidInput detail => "invalid input: " ++ detail
  | .invalidCallParameters detail => "invalid call parameters: " ++ detail
  | .unsupportedCall method => "unsupported call method: " ++ method
  | .unencodableOutput detail => "call output could not be encoded: " ++ detail
  | .task detail => "worker task failed: " ++ detail

/-- A dialogue that answers a query or fails. -/
abbrev Query (α : Type) := ExceptT QueryError Dialogue α

namespace Query

variable {α : Type}

/-- An answer that needs no dialogue. -/
def ofExcept (answer : Except QueryError α) : Query α := ExceptT.mk (.done answer)

/-- Asks one call and takes the text of its result. -/
def call (method : Method) (params : List Json) : Query String :=
  ExceptT.mk (Dialogue.bind (Dialogue.call method params) fun reply =>
    .done (Except.mapError .node reply))

/-- Asks one call and reads its result. -/
def read (reader : Reader α) (method : Method) (params : List Json) : Query α := do
  let text ← call method params
  ofExcept (Except.mapError .node (reader.decode method.name text))

/-- Asks calls in one batch and takes the replies to them; of no calls nothing is asked. -/
def batch (calls : List Call) : Query (List Reply) :=
  ExceptT.mk (Dialogue.bind (Dialogue.batch calls) fun replies =>
    .done (Except.mapError .node replies))

/-- Asks calls of one method in one batch, and reads all results, of which the first at fault
counts. -/
def readAll (reader : Reader α) (method : Method) (params : List (List Json)) :
    Query (List α) := do
  let replies ← batch (params.map (⟨method, ·⟩))
  ofExcept (replies.mapM fun reply => do
    let text ← Except.mapError .node reply
    Except.mapError .node (reader.decode method.name text))

end Query

end PosvGateway
