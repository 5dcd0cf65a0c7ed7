import PosvGateway.Gateway.Task
import PosvGateway.Proofs.Query.Methods

/-!
# Which methods a task asks

Each task asks the node for what it is about, and nothing else.

* `Task.methods`, `Task.asksOnly_perform` : **the methods of a task**;
* `Task.chainId_not_mem_methods` : no task asks for the chain id, which the gate has found before;
* `Task.perform_eq_done` : a task that needs no node is done without one.
-/

namespace PosvGateway

open Dialogue

/-! ### Parts of tasks -/

section Parts

variable {α : Type} {methods : List Method}

namespace Answer

theorem asksOnly_query {query : Query α} (h : query.run.AsksOnly methods) :
    (Answer.query query).run.AsksOnly methods :=
  AsksOnly.bind h fun _ => trivial

theorem asksOnly_step {step : Construction.Step α} (h : step.run.AsksOnly methods) :
    (Answer.step step).run.AsksOnly methods :=
  AsksOnly.bind h fun _ => trivial

theorem asksOnly_offline (answer : Except ConstructionError α) :
    (Answer.offline answer).run.AsksOnly methods := trivial

theorem asksOnly_readHex (answer : Except HexError α) :
    (Answer.readHex answer).run.AsksOnly methods := trivial

end Answer

namespace Construction

theorem asksOnly_query (wrap : QueryError → ConstructionError) {query : Query α}
    (h : query.run.AsksOnly methods) : (Step.query wrap query).run.AsksOnly methods :=
  AsksOnly.bind h fun _ => trivial

theorem asksOnly_lift (answer : Except ConstructionError α) :
    (liftM answer : Step α).run.AsksOnly methods := by
  cases answer <;> trivial

theorem asksOnly_gasPrice (options : Options) : (gasPrice options).run.AsksOnly [.gasPrice] := by
  unfold gasPrice
  split
  · trivial
  · exact asksOnly_query _ (Query.asksOnly_read (by simp) _ _)

theorem asksOnly_metadata (options : Options) :
    (metadata options).run.AsksOnly [.transactionCount, .gasPrice, .estimateGas] := by
  exact AsksOnly.bindT (asksOnly_lift _) fun sender =>
    AsksOnly.bindT (asksOnly_lift _) fun recipient =>
    AsksOnly.bindT (asksOnly_lift _) fun amount =>
    AsksOnly.bindT (asksOnly_query _ (Query.asksOnly_read (by simp) _ _)) fun nonce =>
    AsksOnly.bindT ((asksOnly_gasPrice options).mono (by simp)) fun price =>
    AsksOnly.bindT (asksOnly_lift _) fun limit =>
    AsksOnly.bindT (asksOnly_query _ (Query.asksOnly_read (by simp) _ _)) fun estimate => trivial

theorem asksOnly_submit (text : String) : (submit text).run.AsksOnly [.sendRawTransaction] :=
  AsksOnly.bindT (asksOnly_lift _) fun _ =>
    asksOnly_query _ (Query.asksOnly_read (by simp) _ _)

end Construction

end Parts

/-! ### Tasks -/

namespace Task

/-- The methods that a task asks. -/
def methods : Task → List Method
  | .networkStatus => [.blockByNumber, .blockByHash, .syncing, .peers]
  | .accountBalance .. => [.blockByNumber, .blockByHash, .balance, .transactionCount]
  | .block _ => Query.blockMethods
  | .mempool => [.pendingTransactions]
  | .mempoolTransaction _ => [.pendingTransactions, .balance]
  | .metadata _ => [.transactionCount, .gasPrice, .estimateGas]
  | .submit _ => [.sendRawTransaction]
  | .call .. => [.transactionReceipt]
  | .networkOptions | .blockTransaction .. | .derive _ | .preprocess .. | .payloads .. | .combine ..
  | .parse .. | .hash _ => []

/-- **A task asks its own methods only**, whatever the node replies. -/
theorem asksOnly_perform (trace : TraceSettings) (chain : UInt64) (task : Task) :
    (task.perform trace chain).run.AsksOnly task.methods := by
  cases task with
  | networkOptions => trivial
  | networkStatus =>
    exact AsksOnly.bindT (Answer.asksOnly_query Query.asksOnly_status) fun _ => trivial
  | accountBalance account id =>
    exact AsksOnly.bindT (Answer.asksOnly_readHex _) fun _ =>
      AsksOnly.bindT (Answer.asksOnly_query (Query.asksOnly_ofExcept _)) fun _ =>
      AsksOnly.bindT (Answer.asksOnly_query (Query.asksOnly_balance _ _)) fun _ => trivial
  | block id =>
    exact AsksOnly.bindT (Answer.asksOnly_query (Query.asksOnly_ofExcept _)) fun _ =>
      AsksOnly.bindT (Answer.asksOnly_query (Query.asksOnly_assemble _ _)) fun _ => trivial
  | blockTransaction block hash => trivial
  | mempool => exact AsksOnly.bindT (Answer.asksOnly_query Query.asksOnly_mempool) fun _ => trivial
  | mempoolTransaction text =>
    exact AsksOnly.bindT (Answer.asksOnly_readHex _) fun _ =>
      AsksOnly.bindT (Answer.asksOnly_query (Query.asksOnly_mempoolTransaction _)) fun _ => trivial
  | metadata options =>
    exact AsksOnly.bindT (Answer.asksOnly_offline _) fun _ =>
      AsksOnly.bindT (Answer.asksOnly_step (Construction.asksOnly_metadata _)) fun _ => trivial
  | submit signed =>
    exact AsksOnly.bindT (Answer.asksOnly_step (Construction.asksOnly_submit signed)) fun _ =>
      trivial
  | call method parameters =>
    exact AsksOnly.bindT (Answer.asksOnly_query (Query.asksOnly_relay _ _)) fun _ => trivial
  | payloads operations members =>
    exact AsksOnly.bindT (Answer.asksOnly_offline _) fun _ =>
      AsksOnly.bindT (Answer.asksOnly_offline _) fun _ => trivial
  | derive _ | preprocess _ _ | combine _ _ | parse _ _ | hash _ =>
    exact AsksOnly.bindT (Answer.asksOnly_offline _) fun _ => trivial

/-- No task asks for the chain id. -/
theorem chainId_not_mem_methods (task : Task) : .chainId ∉ task.methods := by
  cases task <;> simp [methods, Query.blockMethods]

theorem methods_eq_nil {task : Task} (h : task.needsNode = false) : task.methods = [] := by
  cases task <;> simp_all [needsNode, methods]

/-- **A task that needs no node is done without one.** -/
theorem perform_eq_done {task : Task} (h : task.needsNode = false) (trace : TraceSettings)
    (chain : UInt64) : ∃ answer, (task.perform trace chain).run = .done answer := by
  have hasks := task.asksOnly_perform trace chain
  rw [methods_eq_nil h] at hasks
  exact exists_done_of_asksOnly_nil hasks

end Task

end PosvGateway
