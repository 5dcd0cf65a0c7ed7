import PosvGateway.Proofs.Query.Shape

/-!
# Two ways of asking for traces

The traces of a block are asked for one after another, or all in one call. A node that tells the
same traces both ways is shown as the same block, whichever way it is asked.

* `Query.result_tracesOneByOne_eq_ok`, `Query.result_tracesAtOnce_eq_ok` : which traces each way
  yields;
* `TellsTracesAlike` : the node tells the traces of a block alike both ways;
* `Query.result_assemble_congr` : a block depends on the settings through its traces alone;
* `Query.traces_agree` : **both ways end alike**, and no block is shown with too few or too many
  traces.
-/

namespace PosvGateway

/-- A node tells the traces of the selected block alike both ways: the traces that it lists in one
reply are those that it gives for the transactions of the block, one for each, in their order. -/
def TellsTracesAlike (node : Node) (settings : TraceSettings) (reference : BlockReference) :
    Prop :=
  ∀ header body, Query.result node (Query.block reference) = .ok (header, body) →
    ∃ reply traces,
      node.reply ⟨.traceBlockByHash, [.octets header.hash, settings.tracerParam]⟩ = .ok reply ∧
      Query.readBlockTraces reply = .ok traces ∧
      List.Forall₂ (fun (tx : LedgerTransaction) trace =>
        node.reply ⟨.traceTransaction, [.octets tx.hash, settings.tracerParam]⟩ = .ok trace)
        body.transactions traces

namespace Query

variable {node : Node} {settings settings' : TraceSettings} {reference : BlockReference}
  {txs : List LedgerTransaction} {traces : List String}

/-! ### Either way -/

theorem result_tracesOneByOne_eq_ok :
    result node (tracesOneByOne settings txs) = .ok traces ↔
      List.Forall₂ (fun (tx : LedgerTransaction) trace =>
        node.reply ⟨.traceTransaction, [.octets tx.hash, settings.tracerParam]⟩ = .ok trace)
        txs traces := by
  refine ⟨fun h => ?_, fun h => result_eq_ok.mpr ?_⟩
  · obtain ⟨asked, h⟩ := result_eq_ok.mp h
    exact forall₂_of_answers_tracesOneByOne h
  · induction h with
    | nil => exact ⟨[], answers_pure.mpr ⟨rfl, rfl⟩⟩
    | cons htrace _ ih =>
      obtain ⟨asked, ih⟩ := ih
      exact ⟨_, answers_bind.mpr ⟨_, _, _, answers_call.mpr ⟨htrace, rfl⟩,
        answers_bind_pure.mpr ⟨_, ih, rfl⟩, rfl⟩⟩

theorem result_tracesAtOnce_eq_ok {block : Digest} {count : Nat} :
    result node (tracesAtOnce settings block count) = .ok traces ↔
      ∃ reply, node.reply ⟨.traceBlockByHash, [.octets block, settings.tracerParam]⟩ = .ok reply ∧
        readBlockTraces reply = .ok traces ∧ traces.length = count := by
  constructor
  · intro h
    obtain ⟨asked, h⟩ := result_eq_ok.mp h
    exact answers_tracesAtOnce h
  · rintro ⟨reply, hreply, hread, hlength⟩
    refine result_eq_ok.mpr ⟨_, answers_bind.mpr ⟨reply, _, [], answers_call.mpr ⟨hreply, rfl⟩,
      answers_ofExcept_bind.mpr ⟨traces, Except.mapError_eq_ok.mpr hread, ?_⟩, rfl⟩⟩
    rw [if_pos hlength]
    exact answers_pure.mpr ⟨rfl, rfl⟩

/-! ### Blocks -/

/-- The transactions of a block depend on the settings through its traces alone. -/
theorem result_transactions_congr {header : Header} {body : BlockBody}
    (h : result node (Query.traces settings header.hash body.transactions)
      = result node (Query.traces settings' header.hash body.transactions)) :
    result node (transactions settings header body)
      = result node (transactions settings' header body) := by
  refine result_bind_congr fun miner _ => result_bind_congr fun receipts _ => ?_
  rw [result_bind, h, result_bind]

/-- A block depends on the settings through its traces alone. -/
theorem result_assemble_congr
    (h : ∀ header body, result node (block reference) = .ok (header, body) →
      result node (Query.traces settings header.hash body.transactions)
        = result node (Query.traces settings' header.hash body.transactions)) :
    result node (assemble settings reference) = result node (assemble settings' reference) := by
  refine result_bind_congr fun (header, body) hblock => result_bind_congr fun uncles _ => ?_
  simp only
  split
  · rfl
  · rw [result_bind, result_transactions_congr (h header body hblock), result_bind]

/-- **Both ways end alike.** If the node tells the traces of a block alike both ways, the block is
assembled alike, or fails to be for the same reason. A later block is never shown if the node lists
too few traces or too many for its transactions. -/
theorem traces_agree (node : Node) (settings : TraceSettings) (reference : BlockReference) :
    (TellsTracesAlike node settings reference →
      result node (assemble { settings with byBlock := true } reference)
        = result node (assemble { settings with byBlock := false } reference)) ∧
    (∀ header body reply traces, result node (block reference) = .ok (header, body) →
      header.number ≠ 0 → body.transactions ≠ [] →
      node.reply ⟨.traceBlockByHash, [.octets header.hash, settings.tracerParam]⟩ = .ok reply →
      readBlockTraces reply = .ok traces → traces.length ≠ body.transactions.length →
      ∃ e, result node (assemble { settings with byBlock := true } reference) = .error e) := by
  constructor
  · intro halike
    refine result_assemble_congr fun header body hblock => ?_
    obtain ⟨reply, traces, hreply, hread, htraces⟩ := halike header body hblock
    have honce : result node (tracesAtOnce { settings with byBlock := true } header.hash
        body.transactions.length) = .ok traces :=
      result_tracesAtOnce_eq_ok.mpr ⟨reply, hreply, hread, htraces.length_eq.symm⟩
    have hone : result node (tracesOneByOne { settings with byBlock := false }
        body.transactions) = .ok traces :=
      result_tracesOneByOne_eq_ok.mpr htraces
    unfold Query.traces
    split
    · rfl
    · rw [if_pos rfl, if_neg Bool.false_ne_true, honce, hone]
  · intro header body reply traces hblock hlater hsome hreply hread hlength
    refine exists_error_of_not_answers fun shown asked h => ?_
    obtain ⟨header', body', uncles, asked₁, asked₂, asked₃, hblock', -, hrest, -⟩ :=
      answers_assemble_iff.mp h
    obtain ⟨rfl, rfl⟩ : header = header' ∧ body = body' :=
      Prod.mk.inj (Except.ok.inj (hblock.symm.trans (result_eq_ok.mpr ⟨_, hblock'⟩)))
    rw [if_neg hlater] at hrest
    obtain ⟨miner, receipts, traces', opening, ordinary, first, second, third, fourth, -, -,
      htraces, -⟩ := answers_transactions.mp hrest.1
    -- The traces that the block is shown with are those that the node lists.
    unfold Query.traces at htraces
    rw [if_neg hsome, if_pos rfl] at htraces
    obtain ⟨reply', hreply', hread', hlength'⟩ := answers_tracesAtOnce htraces
    obtain rfl := Except.ok.inj (hreply.symm.trans hreply')
    obtain rfl := Except.ok.inj (hread.symm.trans hread')
    exact hlength hlength'

end Query

/-! ### A node that lists traces -/

namespace OneBlock

open Chars (array object)

/-- The text of a list of traces. -/
def tracesText (traces : List (List Char)) : List Char :=
  array (traces.map fun trace => object [("result", trace)])

/-- The node with one block, which also lists traces of the block. -/
def listingNode (traces : List (List Char)) : Node where
  reply call :=
    if call.method = .traceBlockByHash then .ok (String.ofList (tracesText traces))
    else answer call
  batchReply := node.batchReply

/-- The node that lists the traces of both transactions. -/
abbrev fullNode : Node := listingNode [traceText, laterTraceText]

/-- The node that lists the trace of the first transaction only. -/
abbrev shortNode : Node := listingNode [traceText]

theorem readBlockTraces_full :
    Query.readBlockTraces (String.ofList (tracesText [traceText, laterTraceText]))
      = .ok [String.ofList traceText, String.ofList laterTraceText] := by
  rw [Query.readBlockTraces,
    Reader.runTo_ofList (a := [String.ofList traceText, String.ofList laterTraceText])]
  decide +kernel

theorem readBlockTraces_short :
    Query.readBlockTraces (String.ofList (tracesText [traceText]))
      = .ok [String.ofList traceText] := by
  rw [Query.readBlockTraces, Reader.runTo_ofList (a := [String.ofList traceText])]
  decide +kernel

theorem result_block (traces : List (List Char)) :
    Query.result (listingNode traces) (Query.block .latest) = .ok (header, body) :=
  Query.result_eq_ok.mpr (answers_block rfl)

theorem forall₂_traces (settings : TraceSettings) :
    List.Forall₂ (fun (tx : LedgerTransaction) trace =>
      fullNode.reply ⟨.traceTransaction, [.octets tx.hash, settings.tracerParam]⟩ = .ok trace)
      body.transactions [String.ofList traceText, String.ofList laterTraceText] :=
  .cons (answer_traceTransaction _).1 (.cons (answer_traceTransaction _).2 .nil)

theorem tellsTracesAlike : TellsTracesAlike fullNode {} .latest := by
  intro header' body' hblock
  obtain ⟨rfl, rfl⟩ := Prod.mk.inj (Except.ok.inj ((result_block _).symm.trans hblock))
  exact ⟨_, _, rfl, readBlockTraces_full, forall₂_traces {}⟩

/-- Both ways the block is served with its rewards and its two transactions; with one trace for two
transactions it is not. -/
theorem traces_agree_listing :
    TellsTracesAlike fullNode {} .latest ∧
      (∃ txs, txs.map Transaction.kinds = kinds ∧
        Query.result fullNode (Query.assemble { byBlock := false } .latest) = .ok (shown txs) ∧
        Query.result fullNode (Query.assemble { byBlock := true } .latest) = .ok (shown txs)) ∧
      (∃ reply traces, Query.result shortNode (Query.block .latest) = .ok (header, body) ∧
        header.number ≠ 0 ∧ body.transactions ≠ [] ∧
        shortNode.reply ⟨.traceBlockByHash, [.octets header.hash,
          ({} : TraceSettings).tracerParam]⟩ = .ok reply ∧
        Query.readBlockTraces reply = .ok traces ∧ traces.length ≠ body.transactions.length ∧
        ∃ e, Query.result shortNode (Query.assemble { byBlock := true } .latest) = .error e) := by
  obtain ⟨hagree, -⟩ := Query.traces_agree fullNode {} .latest
  obtain ⟨-, hcount⟩ := Query.traces_agree shortNode {} .latest
  have hsome : body.transactions ≠ [] := List.cons_ne_nil _ _
  refine ⟨tellsTracesAlike, ?_, _, _, result_block _, by decide, hsome, rfl, readBlockTraces_short,
    by decide, hcount header body _ _ (result_block _) (by decide) hsome rfl readBlockTraces_short
      (by decide)⟩
  have htraces : Query.result fullNode
      (Query.traces { byBlock := false } header.hash body.transactions)
        = .ok [String.ofList traceText, String.ofList laterTraceText] := by
    rw [Query.traces, if_neg hsome, if_neg Bool.false_ne_true]
    exact Query.result_tracesOneByOne_eq_ok.mpr (forall₂_traces _)
  have hbatch : fullNode.batchReply = node.batchReply := rfl
  obtain ⟨txs, asked, hshown, hkinds⟩ :=
    exists_answers_assemble_of hbatch rfl rfl (Query.result_eq_ok.mp htraces)
  have hone := Query.result_eq_ok.mpr ⟨asked, hshown⟩
  exact ⟨txs, hkinds, hone, (hagree tellsTracesAlike).trans hone⟩

end OneBlock

end PosvGateway
