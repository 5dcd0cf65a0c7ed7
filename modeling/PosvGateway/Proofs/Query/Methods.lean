import PosvGateway.Proofs.Query.Answers
import PosvGateway.Query.Account
import PosvGateway.Query.Mempool
import PosvGateway.Query.Status

/-!
# Which methods a query asks

A query asks calls of a few methods, whatever the node replies and however the query ends.

* `Dialogue.AsksOnly methods d` : whatever the replies, `d` asks calls of these methods only, and
  never a batch of no calls;
* `Dialogue.AsksOnly.bind`, `Dialogue.AsksOnly.bindT` : a dialogue in two parts;
* `Dialogue.AsksOnly.mem_of_mem_run` : so does every run of it, one that fails included;
* `Dialogue.exists_done_of_asksOnly_nil` : without a method there is nothing to ask;
* `Query.asksOnly_assemble`, `Query.asksOnly_status`, … : the methods of each query.
-/

namespace PosvGateway

variable {α β : Type}

namespace Dialogue

/-! ### Dialogues -/

/-- Whatever the replies, a dialogue asks calls of these methods only, and no batch of no calls. -/
def AsksOnly (methods : List Method) : Dialogue α → Prop
  | .done _ => True
  | .ask call next => call.method ∈ methods ∧ ∀ reply, AsksOnly methods (next reply)
  | .askAll calls next =>
    calls ≠ [] ∧ (∀ call ∈ calls, call.method ∈ methods) ∧ ∀ reply, AsksOnly methods (next reply)

variable {methods methods' : List Method}

theorem AsksOnly.bind {d : Dialogue α} {f : α → Dialogue β} (hd : d.AsksOnly methods)
    (hf : ∀ a, (f a).AsksOnly methods) : (d.bind f).AsksOnly methods := by
  induction d with
  | done a => exact hf a
  | ask call next ih => exact ⟨hd.1, fun reply => ih reply (hd.2 reply)⟩
  | askAll calls next ih => exact ⟨hd.1, hd.2.1, fun reply => ih reply (hd.2.2 reply)⟩

theorem AsksOnly.mono {d : Dialogue α} (hd : d.AsksOnly methods)
    (h : ∀ m ∈ methods, m ∈ methods') : d.AsksOnly methods' := by
  induction d with
  | done a => trivial
  | ask call next ih => exact ⟨h _ hd.1, fun reply => ih reply (hd.2 reply)⟩
  | askAll calls next ih =>
    exact ⟨hd.1, fun call hcall => h _ (hd.2.1 call hcall), fun reply => ih reply (hd.2.2 reply)⟩

/-- A dialogue in two parts, of which the first may fail. -/
theorem AsksOnly.bindT {ε : Type} {d : ExceptT ε Dialogue α} {f : α → ExceptT ε Dialogue β}
    (hd : d.run.AsksOnly methods) (hf : ∀ a, (f a).run.AsksOnly methods) :
    (d >>= f).run.AsksOnly methods := by
  refine AsksOnly.bind hd fun answer => ?_
  cases answer with
  | error e => trivial
  | ok a => exact hf a

theorem AsksOnly.mem_of_mem_run {d : Dialogue α} (hd : d.AsksOnly methods) (node : Node) :
    ∀ asked ∈ (d.run node).2, ∀ call ∈ asked.calls, call.method ∈ methods := by
  induction d with
  | done a => simp [run]
  | ask call next ih =>
    intro asked hasked
    rcases List.mem_cons.mp hasked with rfl | hasked
    · simpa [Asked.calls] using hd.1
    · exact ih _ (hd.2 _) asked hasked
  | askAll calls next ih =>
    intro asked hasked
    rcases List.mem_cons.mp hasked with rfl | hasked
    · simpa [Asked.calls] using hd.2.1
    · exact ih _ (hd.2.2 _) asked hasked

/-- No run asks a call of another method. -/
theorem AsksOnly.ofMethod_eq_nil {d : Dialogue α} (hd : d.AsksOnly methods) {method : Method}
    (h : method ∉ methods) (node : Node) : Asked.ofMethod method (d.run node).2 = [] := by
  simp only [Asked.ofMethod, List.filter_eq_nil_iff, List.mem_flatMap, decide_eq_true_eq]
  rintro call ⟨asked, hasked, hcall⟩ rfl
  exact h (hd.mem_of_mem_run node asked hasked call hcall)

/-- Without a method there is nothing to ask. -/
theorem exists_done_of_asksOnly_nil {d : Dialogue α} (hd : d.AsksOnly []) : ∃ a, d = .done a := by
  cases d with
  | done a => exact ⟨a, rfl⟩
  | ask call next => exact absurd hd.1 List.not_mem_nil
  | askAll calls next =>
    obtain ⟨call, hcall⟩ := List.exists_mem_of_ne_nil calls hd.1
    exact absurd (hd.2.1 call hcall) List.not_mem_nil

theorem asksOnly_call {method : Method} (h : method ∈ methods) (params : List Json) :
    (call method params).AsksOnly methods :=
  ⟨h, fun _ => trivial⟩

theorem asksOnly_batch {calls : List Call} (h : ∀ call ∈ calls, call.method ∈ methods) :
    (batch calls).AsksOnly methods := by
  cases calls with
  | nil => trivial
  | cons call calls => exact ⟨List.cons_ne_nil call calls, h, fun _ => trivial⟩

end Dialogue

namespace Query

open Dialogue

variable {methods : List Method}

/-! ### Parts of queries -/

theorem asksOnly_ofExcept (answer : Except QueryError α) :
    (ofExcept answer).run.AsksOnly methods := trivial

theorem asksOnly_pure (a : α) : (pure a : Query α).run.AsksOnly methods := trivial

theorem asksOnly_throw (e : QueryError) : (throw e : Query α).run.AsksOnly methods := trivial

/-- A query that is refused under some condition, and goes on otherwise. -/
theorem asksOnly_guard {c : Prop} {_ : Decidable c} {e : QueryError} {rest : Unit → Query α}
    (h : (rest ()).run.AsksOnly methods) :
    (if c then (throw e : Query Unit) >>= rest else rest ()).run.AsksOnly methods := by
  split
  · exact AsksOnly.bindT (asksOnly_throw e) fun _ => h
  · exact h

theorem asksOnly_lift {d : Dialogue α} (hd : d.AsksOnly methods) :
    (ExceptT.lift d : Query α).run.AsksOnly methods :=
  AsksOnly.bind hd fun _ => trivial

theorem asksOnly_call {method : Method} (h : method ∈ methods) (params : List Json) :
    (call method params).run.AsksOnly methods :=
  AsksOnly.bind (Dialogue.asksOnly_call h params) fun _ => trivial

theorem asksOnly_read {method : Method} (h : method ∈ methods) (reader : Reader α)
    (params : List Json) : (read reader method params).run.AsksOnly methods :=
  AsksOnly.bindT (asksOnly_call h params) fun _ => asksOnly_ofExcept _

theorem asksOnly_batch {calls : List Call} (h : ∀ call ∈ calls, call.method ∈ methods) :
    (batch calls).run.AsksOnly methods :=
  AsksOnly.bind (Dialogue.asksOnly_batch h) fun _ => trivial

theorem asksOnly_readAll {method : Method} (h : method ∈ methods) (reader : Reader α)
    (params : List (List Json)) : (readAll reader method params).run.AsksOnly methods := by
  refine AsksOnly.bindT (asksOnly_batch fun call hcall => ?_) fun _ => asksOnly_ofExcept _
  obtain ⟨_, -, rfl⟩ := List.mem_map.mp hcall
  exact h

theorem method_mem_blockMethods (reference : BlockReference) :
    reference.method ∈ [Method.blockByNumber, Method.blockByHash] := by
  cases reference <;> simp [BlockReference.method]

theorem asksOnly_header (reference : BlockReference) :
    (header reference).run.AsksOnly [.blockByNumber, .blockByHash] :=
  asksOnly_read (method_mem_blockMethods reference) _ _

theorem asksOnly_block (reference : BlockReference) :
    (block reference).run.AsksOnly [.blockByNumber, .blockByHash] :=
  AsksOnly.bindT (asksOnly_call (method_mem_blockMethods reference) _) fun _ => asksOnly_ofExcept _

theorem asksOnly_uncles (header : Header) (body : BlockBody) :
    (uncles header body).run.AsksOnly [.uncleByBlockHashAndIndex] :=
  asksOnly_readAll (by simp) _ _

theorem asksOnly_receipts (txs : List LedgerTransaction) :
    (receipts txs).run.AsksOnly [.transactionReceipt] := by
  refine AsksOnly.bindT (asksOnly_batch fun call hcall => ?_) fun _ => asksOnly_ofExcept _
  obtain ⟨tx, -, rfl⟩ := List.mem_map.mp hcall
  simp

theorem asksOnly_tracesOneByOne (settings : TraceSettings) (txs : List LedgerTransaction) :
    (tracesOneByOne settings txs).run.AsksOnly [.traceTransaction] := by
  induction txs with
  | nil => exact asksOnly_pure _
  | cons tx txs ih =>
    exact AsksOnly.bindT (asksOnly_call (by simp) _) fun _ =>
      AsksOnly.bindT ih fun _ => asksOnly_pure _

theorem asksOnly_tracesAtOnce (settings : TraceSettings) (block : Digest) (count : Nat) :
    (tracesAtOnce settings block count).run.AsksOnly [.traceBlockByHash] := by
  refine AsksOnly.bindT (asksOnly_call (by simp) _) fun _ =>
    AsksOnly.bindT (asksOnly_ofExcept _) fun traces => ?_
  split
  · exact asksOnly_pure _
  · exact asksOnly_throw _

theorem asksOnly_traces (settings : TraceSettings) (block : Digest)
    (txs : List LedgerTransaction) :
    (traces settings block txs).run.AsksOnly [.traceBlockByHash, .traceTransaction] := by
  unfold traces
  split_ifs
  · exact asksOnly_pure _
  · exact (asksOnly_tracesAtOnce settings block _).mono (by simp)
  · exact (asksOnly_tracesOneByOne settings txs).mono (by simp)

theorem asksOnly_reward (block : Digest) : (reward block).run.AsksOnly [.rewardByHash] := by
  refine AsksOnly.bindT (asksOnly_lift (Dialogue.asksOnly_call (by simp) _)) fun reply => ?_
  split
  · exact asksOnly_pure _
  · exact AsksOnly.bindT (asksOnly_ofExcept _) fun _ => asksOnly_pure _

theorem asksOnly_openingTransactions (header : Header) :
    (openingTransactions header).run.AsksOnly [.rewardByHash] := by
  unfold openingTransactions
  split_ifs
  · exact AsksOnly.bindT (asksOnly_reward _) fun _ => asksOnly_pure _
  · exact asksOnly_pure _

theorem asksOnly_withRunningBalances (txs : List Transaction) (tag : Json) :
    (withRunningBalances txs tag).run.AsksOnly [.balance] := by
  have hfetch : (Balances.fetch (namedAccounts txs) tag).run.AsksOnly [.balance] := by
    refine AsksOnly.bindT (asksOnly_batch fun call hcall => ?_) fun _ => asksOnly_ofExcept _
    obtain ⟨account, -, rfl⟩ := List.mem_map.mp hcall
    simp
  refine AsksOnly.bindT hfetch fun opening => ?_
  split
  · exact asksOnly_pure _
  · exact asksOnly_throw _

/-- The methods that tell what is in a block. -/
def blockMethods : List Method :=
  [.blockByNumber, .blockByHash, .uncleByBlockHashAndIndex, .transactionReceipt,
    .traceBlockByHash, .traceTransaction, .rewardByHash, .balance]

theorem asksOnly_transactions (settings : TraceSettings) (header : Header) (body : BlockBody) :
    (transactions settings header body).run.AsksOnly blockMethods := by
  refine AsksOnly.bindT (asksOnly_ofExcept _) fun miner =>
    AsksOnly.bindT ((asksOnly_receipts _).mono (by decide)) fun receipts =>
    AsksOnly.bindT ((asksOnly_traces _ _ _).mono (by decide)) fun traces =>
    AsksOnly.bindT ((asksOnly_openingTransactions header).mono (by decide)) fun opening =>
    AsksOnly.bindT (asksOnly_ofExcept _) fun ordinary => ?_
  exact (asksOnly_withRunningBalances _ _).mono (by decide)

theorem asksOnly_assemble (settings : TraceSettings) (reference : BlockReference) :
    (assemble settings reference).run.AsksOnly blockMethods := by
  refine AsksOnly.bindT ((asksOnly_block reference).mono (by decide)) fun (header, body) =>
    AsksOnly.bindT ((asksOnly_uncles header body).mono (by decide)) fun uncles => ?_
  simp only
  split_ifs
  · exact asksOnly_pure _
  · exact AsksOnly.bindT (asksOnly_transactions _ _ _) fun _ => asksOnly_pure _

/-! ### Status, accounts, pool and calls -/

theorem asksOnly_status :
    status.run.AsksOnly [.blockByNumber, .blockByHash, .syncing, .peers] := by
  have hsync : syncProgress.run.AsksOnly [.blockByNumber, .blockByHash, .syncing, .peers] :=
    AsksOnly.bindT (asksOnly_call (by simp) _) fun _ => asksOnly_ofExcept _
  have hpeers : peers.run.AsksOnly [.blockByNumber, .blockByHash, .syncing, .peers] :=
    AsksOnly.bindT (asksOnly_lift (Dialogue.asksOnly_call (by simp) _)) fun _ => asksOnly_pure _
  refine AsksOnly.bindT ((asksOnly_header .latest).mono (by decide)) fun latest => ?_
  extract_lets timestamp next
  have hnext : (next ()).run.AsksOnly [.blockByNumber, .blockByHash, .syncing, .peers] :=
    AsksOnly.bindT ((asksOnly_header _).mono (by decide)) fun genesis =>
      AsksOnly.bindT hsync fun sync => AsksOnly.bindT hpeers fun peers => asksOnly_pure _
  -- The limit is a large number, which is better not looked at.
  generalize earliestTimestamp = limit
  exact asksOnly_guard hnext

theorem asksOnly_balance (account : Address) (reference : BlockReference) :
    (balance account reference).run.AsksOnly
      [.blockByNumber, .blockByHash, .balance, .transactionCount] :=
  AsksOnly.bindT ((asksOnly_header reference).mono (by decide)) fun _ =>
    AsksOnly.bindT (asksOnly_read (by simp) _ _) fun _ =>
      AsksOnly.bindT (asksOnly_read (by simp) _ _) fun _ => asksOnly_pure _

theorem asksOnly_pendingTransactions :
    pendingTransactions.run.AsksOnly [.pendingTransactions] := by
  refine AsksOnly.bindT (asksOnly_lift (Dialogue.asksOnly_call (by simp) _)) fun reply => ?_
  split
  · exact asksOnly_pure _
  · exact asksOnly_ofExcept _

theorem asksOnly_mempool : mempool.run.AsksOnly [.pendingTransactions] :=
  AsksOnly.bindT asksOnly_pendingTransactions fun _ => asksOnly_pure _

theorem asksOnly_mempoolTransaction (hash : Digest) :
    (mempoolTransaction hash).run.AsksOnly [.pendingTransactions, .balance] := by
  refine AsksOnly.bindT (asksOnly_pendingTransactions.mono (by decide)) fun pending => ?_
  split
  · exact asksOnly_throw _
  · exact AsksOnly.bindT ((asksOnly_withRunningBalances _ _).mono (by decide)) fun _ =>
      asksOnly_pure _

theorem asksOnly_relay (method : String) (parameters : Json.Members) :
    (relay method parameters).run.AsksOnly [.transactionReceipt] := by
  unfold relay
  refine asksOnly_guard ?_
  split
  · split
    · exact asksOnly_throw _
    · refine AsksOnly.bindT (asksOnly_call (by simp) _) fun text => ?_
      split <;> trivial
  · exact asksOnly_throw _

end Query

end PosvGateway
