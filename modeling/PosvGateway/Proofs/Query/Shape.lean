import PosvGateway.Proofs.Query.RunningBalances
import PosvGateway.Proofs.Reward.Split

/-!
# The shape of an assembled block

The transactions of a block, their receipts and their traces are asked for one after another and put
together again by their places. Nothing is lost, and nothing gets another's receipt or trace.

* `BlockBody.checkAgainst_eq_ok` : header and body agree on which lists are empty;
* `ReceiptAt`, `TraceAt` : what the node answered for the transaction at a place of a block;
* `ShowsAs` : how a transaction is shown with its receipt and its trace;
* `Query.forall₂_runs_of_answers` : running balances leave the transactions at their places;
* `Query.transactionsInOrder_of_answers` : what is shown behind the header of a later block;
* `BlockShape` : the block, its parent, the reward transaction and all others in their order;
* `Query.shape_of_answers` : **every assembled block has this shape**.
-/

namespace PosvGateway

/-! ### Header and body -/

/-- A body goes with a header if both agree on which lists are empty. -/
theorem BlockBody.checkAgainst_eq_ok {body : BlockBody} {header : Header} :
    body.checkAgainst header = .ok () ↔
      (header.transactionsRoot = emptyRoot ↔ body.transactions = []) ∧
        (header.unclesHash = emptyUnclesHash ↔ body.uncles = []) := by
  unfold checkAgainst
  by_cases huncles : header.unclesHash = emptyUnclesHash <;>
    by_cases htransactions : header.transactionsRoot = emptyRoot <;>
    by_cases hbody : body.uncles = [] <;>
    by_cases hlist : body.transactions = [] <;>
    simp [huncles, htransactions, hbody, hlist]

/-! ### Receipts and traces -/

/-- The node's receipt for the transaction at a place of a block: the reply at that place of the
batch in which they are asked for. -/
def ReceiptAt (node : Node) (txs : List LedgerTransaction) (i : Nat) (receipt : String) : Prop :=
  ∃ replies,
    node.batchReply (txs.map fun tx => ⟨.transactionReceipt, [.octets tx.hash]⟩) = .ok replies ∧
      replies[i]? = some (.ok receipt)

theorem ReceiptAt.unique {node : Node} {txs : List LedgerTransaction} {i : Nat}
    {receipt receipt' : String} (h : ReceiptAt node txs i receipt)
    (h' : ReceiptAt node txs i receipt') : receipt = receipt' := by
  obtain ⟨replies, hreplies, hreceipt⟩ := h
  obtain ⟨replies', hreplies', hreceipt'⟩ := h'
  obtain rfl := Except.ok.inj (hreplies.symm.trans hreplies')
  exact Except.ok.inj (Option.some.inj (hreceipt.symm.trans hreceipt'))

/-- The node's trace for the transaction at a place of a block: the reply to the question for that
transaction, or where the traces of a block are asked for at once, the one at its place. -/
def TraceAt (node : Node) (settings : TraceSettings) (block : Digest)
    (txs : List LedgerTransaction) (i : Nat) (trace : String) : Prop :=
  if settings.byBlock then
    ∃ reply traces, node.reply ⟨.traceBlockByHash, [.octets block, settings.tracerParam]⟩ =
      .ok reply ∧ Query.readBlockTraces reply = .ok traces ∧ traces[i]? = some trace
  else
    ∃ tx, txs[i]? = some tx ∧
      node.reply ⟨.traceTransaction, [.octets tx.hash, settings.tracerParam]⟩ = .ok trace

namespace Query

variable {node : Node} {asked : List Asked} {settings : TraceSettings}
  {txs : List LedgerTransaction}

/-- The receipts of some transactions stand at their places. -/
theorem getElem?_eq_some_iff_receiptAt {receipts : List String} (hsome : txs ≠ [])
    (h : Answers node (Query.receipts txs) receipts asked) {i : Nat} {receipt : String} :
    receipts[i]? = some receipt ↔ ReceiptAt node txs i receipt := by
  obtain ⟨replies, hreplies, hreceipts⟩ := answers_receipts.mp h
  have hreceipts := Except.mapM_eq_ok.mp hreceipts
  obtain ⟨hnil, -⟩ | ⟨-, hreply, -⟩ := answers_batch.mp hreplies
  · exact absurd (List.map_eq_nil_iff.mp hnil) hsome
  constructor
  · intro hi
    obtain ⟨reply, hi, hok⟩ := exists_getElem?_of_forall₂ hreceipts.flip hi
    rw [Except.mapError_eq_ok] at hok
    exact ⟨replies, hreply, by rw [hi, hok]⟩
  · rintro ⟨replies', hreply', hi⟩
    obtain rfl := Except.ok.inj (hreply.symm.trans hreply')
    obtain ⟨receipt', hi', hok⟩ := exists_getElem?_of_forall₂ hreceipts hi
    obtain rfl := Except.ok.inj (Except.mapError_eq_ok.mp hok)
    exact hi'

/-- There is a receipt for each transaction, where the node replies to each call of a batch. -/
theorem receiptAt_of_answers {receipts : List String}
    (hbatch : ∀ calls replies, node.batchReply calls = .ok replies →
      replies.length = calls.length)
    (h : Answers node (Query.receipts txs) receipts asked) :
    receipts.length = txs.length ∧
      ∀ (i : Nat) receipt, receipts[i]? = some receipt → ReceiptAt node txs i receipt := by
  obtain ⟨replies, hreplies, hreceipts⟩ := answers_receipts.mp h
  have hreceipts := Except.mapM_eq_ok.mp hreceipts
  -- For no transactions nothing is asked.
  obtain ⟨hnil, rfl, -⟩ | ⟨hsome, hreply, -⟩ := answers_batch.mp hreplies
  · obtain rfl := List.forall₂_nil_left_iff.mp hreceipts
    rw [List.map_eq_nil_iff.mp hnil]
    exact ⟨rfl, fun i receipt hi => nomatch hi⟩
  · have hsome : txs ≠ [] := fun hnil => hsome (List.map_eq_nil_iff.mpr hnil)
    refine ⟨?_, fun i receipt => (getElem?_eq_some_iff_receiptAt hsome h).mp⟩
    rw [← hreceipts.length_eq, hbatch _ _ hreply, List.length_map]

theorem forall₂_of_answers_tracesOneByOne {traces : List String}
    (h : Answers node (tracesOneByOne settings txs) traces asked) :
    List.Forall₂ (fun tx trace =>
      node.reply ⟨.traceTransaction, [.octets tx.hash, settings.tracerParam]⟩ = .ok trace)
      txs traces := by
  induction txs generalizing traces asked with
  | nil =>
    obtain ⟨rfl, -⟩ := answers_pure.mp h
    exact .nil
  | cons tx txs ih =>
    obtain ⟨trace, first, rest, htrace, h, -⟩ := answers_bind.mp h
    obtain ⟨traces', htraces, rfl⟩ := answers_bind_pure.mp h
    exact .cons (answers_call.mp htrace).1 (ih htraces)

theorem answers_tracesAtOnce {block : Digest} {count : Nat} {traces : List String}
    (h : Answers node (tracesAtOnce settings block count) traces asked) :
    ∃ reply, node.reply ⟨.traceBlockByHash, [.octets block, settings.tracerParam]⟩ = .ok reply ∧
      readBlockTraces reply = .ok traces ∧ traces.length = count := by
  obtain ⟨reply, first, rest, hreply, h, -⟩ := answers_bind.mp h
  obtain ⟨traces', hread, h⟩ := answers_ofExcept_bind.mp h
  split at h
  · rename_i hlength
    obtain ⟨rfl, -⟩ := answers_pure.mp h
    exact ⟨reply, (answers_call.mp hreply).1, Except.mapError_eq_ok.mp hread, hlength⟩
  · exact absurd h not_answers_throw

/-- There is a trace for each transaction, whichever way they are asked for. -/
theorem traceAt_of_answers {block : Digest} {traces : List String}
    (h : Answers node (Query.traces settings block txs) traces asked) :
    traces.length = txs.length ∧
      ∀ (i : Nat) trace, traces[i]? = some trace → TraceAt node settings block txs i trace := by
  unfold Query.traces at h
  split at h
  · rename_i hnil
    obtain ⟨rfl, -⟩ := answers_pure.mp h
    rw [hnil]
    exact ⟨rfl, fun i trace hi => nomatch hi⟩
  split at h
  · rename_i hbyBlock
    obtain ⟨reply, hreply, hread, hlength⟩ := answers_tracesAtOnce h
    refine ⟨hlength, fun i trace hi => ?_⟩
    rw [TraceAt, if_pos hbyBlock]
    exact ⟨reply, traces, hreply, hread, hi⟩
  · rename_i hbyBlock
    have htraces := forall₂_of_answers_tracesOneByOne h
    refine ⟨htraces.length_eq.symm, fun i trace hi => ?_⟩
    obtain ⟨tx, hi, hreply⟩ := exists_getElem?_of_forall₂ htraces.flip hi
    rw [TraceAt, if_neg hbyBlock]
    exact ⟨tx, hi, hreply⟩

end Query

/-! ### Transactions -/

/-- A transaction is shown with its receipt and its trace: it opens with the fee, which its sender
pays to the sealer of the block. -/
structure ShowsAs (miner : Address) (tx : LedgerTransaction) (receipt trace : String)
    (shown : Transaction) : Prop where
  hash : shown.hash = tx.hash.toHex
  /-- The sender pays. -/
  payer : ∃ op, shown.operations[0]? = some op ∧ op.kind = OperationType.fee ∧
    op.account = some (.ofAddress tx.sender)
  /-- The sealer receives. -/
  payee : ∃ op, shown.operations[1]? = some op ∧ op.kind = OperationType.fee ∧
    op.account = some (.ofAddress miner)
  /-- The receipt and the trace are what the node answered, as JSON. -/
  metadata : ∃ metadata receiptValue traceValue, shown.metadata = some metadata ∧
    Reader.run Reader.json receipt = .ok receiptValue ∧
    Reader.run Reader.json trace = .ok traceValue ∧
    metadata.find? "receipt" = some receiptValue ∧ metadata.find? "trace" = some traceValue

theorem showsAs_of_toRosetta {miner : Address} {tx : LedgerTransaction} {receipt trace : String}
    {shown : Transaction} (h : tx.toRosetta miner receipt trace = .ok shown) :
    ShowsAs miner tx receipt trace shown := by
  obtain ⟨parsed, -, hshown⟩ := LedgerTransaction.toRosetta_eq_ok.mp h
  obtain ⟨root, receiptValue, traceValue, operations, -, hreceipt, htrace, -, rfl⟩ :=
    Executed.toRosetta_eq_ok.mp hshown
  refine ⟨rfl, ⟨_, rfl, rfl, rfl⟩, ⟨_, rfl, rfl, rfl⟩, _, receiptValue, traceValue, rfl, hreceipt,
    htrace, ?_, ?_⟩
  · simp [Executed.metadata, OrderedMap.find?_ofList]
  · simp [Executed.metadata, OrderedMap.find?_ofList]

/-- Running balances only add to the metadata of operations. -/
theorem ShowsAs.of_runs {miner : Address} {tx : LedgerTransaction} {receipt trace : String}
    {plain shown : Transaction} (h : ShowsAs miner tx receipt trace plain)
    (hruns : Balances.Runs plain shown) : ShowsAs miner tx receipt trace shown := by
  obtain ⟨opening, earlier, rfl⟩ := hruns
  obtain ⟨op, hpayer, hkind, haccount⟩ := h.payer
  obtain ⟨op', hpayee, hkind', haccount'⟩ := h.payee
  obtain ⟨upTo, hpayer⟩ := Balances.getElem?_running hpayer
  obtain ⟨upTo', hpayee⟩ := Balances.getElem?_running hpayee
  exact {
    hash := h.hash
    payer := ⟨_, hpayer, by rw [Balances.noteAt_kind, hkind],
      by rw [Balances.noteAt_account, haccount]⟩
    payee := ⟨_, hpayee, by rw [Balances.noteAt_kind, hkind'],
      by rw [Balances.noteAt_account, haccount']⟩
    metadata := h.metadata }

/-- Running balances are noted in all transactions at once, and part them where they were joined. -/
theorem Query.forall₂_runs_of_answers {node : Node} {asked : List Asked}
    {opening ordinary shown : List Transaction} {tag : Json}
    (h : Answers node (withRunningBalances (opening ++ ordinary) tag) shown asked) :
    ∃ opening' ordinary', shown = opening' ++ ordinary' ∧
      List.Forall₂ Balances.Runs opening opening' ∧
      List.Forall₂ Balances.Runs ordinary ordinary' := by
  obtain ⟨replies, balances, -, -, -, hshown⟩ := answers_withRunningBalances.mp h
  rw [Balances.runningTransactions_append] at hshown
  exact ⟨_, _, hshown, Balances.forall₂_runningTransactions _ _ opening,
    Balances.forall₂_runningTransactions _ _ ordinary⟩

/-- Every transaction is shown at its place, with the receipt and the trace at that place. -/
theorem getElem?_transactionsToRosetta {miner : Address} {txs : List LedgerTransaction}
    {receipts traces : List String} {shown : List Transaction}
    (h : transactionsToRosetta miner txs receipts traces = .ok shown)
    (hreceipts : receipts.length = txs.length) (htraces : traces.length = txs.length) :
    shown.length = txs.length ∧
      ∀ (i : Nat) tx, txs[i]? = some tx → ∃ receipt trace plain, receipts[i]? = some receipt ∧
        traces[i]? = some trace ∧ shown[i]? = some plain ∧
        tx.toRosetta miner receipt trace = .ok plain := by
  constructor
  · rw [← (transactionsToRosetta_eq_ok.mp h).length_eq, List.length_zip, List.length_zip,
      hreceipts, htraces, Nat.min_self, Nat.min_self]
  · intro i tx htx
    -- The lists are equally long, so none of them ends before this place.
    obtain ⟨hlt, -⟩ := List.getElem?_eq_some_iff.mp htx
    have hreceipt : receipts[i]? = some (receipts[i]) := List.getElem?_eq_getElem (by omega)
    have htrace : traces[i]? = some (traces[i]) := List.getElem?_eq_getElem (by omega)
    obtain ⟨plain, hi, hplain⟩ := exists_getElem?_transactionsToRosetta h htx hreceipt htrace
    exact ⟨_, _, plain, hreceipt, htrace, hi, hplain⟩

/-! ### Rewards -/

theorem Header.number_pos {header : Header} (hlater : header.number ≠ 0) :
    0 < header.number.toNat :=
  Nat.pos_of_ne_zero fun hzero => hlater (UInt64.toNat_inj.mp hzero)

/-- The block is a checkpoint, and the node's report of its rewards tells a split. -/
def HasSplit (node : Node) (header : Header) : Prop :=
  header.number.toNat % 900 = 0 ∧
    ∃ text, node.reply ⟨.rewardByHash, [.octets header.hash]⟩ = .ok text ∧ Rewards.TellsSplit text

/-- The transactions that open a block: one that is named by the block where there is a split, and
else none. -/
structure OpensBlock (node : Node) (header : Header) (opening : List Transaction) : Prop where
  split : HasSplit node header → ∃ tx, opening = [tx] ∧ tx.hash = header.hash.toHex
  none : ¬ HasSplit node header → opening = []

theorem Query.opensBlock_of_answers {node : Node} {asked : List Asked} {header : Header}
    {opening : List Transaction} (hlater : header.number ≠ 0)
    (h : Answers node (openingTransactions header) opening asked) :
    OpensBlock node header opening := by
  have hpositive := Header.number_pos hlater
  have hcheckpoint : isCheckpoint header.number = true ↔ header.number.toNat % 900 = 0 := by
    rw [isCheckpoint, Bool.and_eq_true, decide_eq_true_eq, decide_eq_true_eq]
    exact ⟨And.right, fun hmultiple => ⟨hpositive, hmultiple⟩⟩
  rw [answers_openingTransactions] at h
  split at h
  · rename_i hcheck
    obtain ⟨tx?, hreward, rfl⟩ := h
    obtain ⟨⟨⟨what, hmissing⟩, rfl⟩ | ⟨text, split?, hreply, hread, rfl⟩, -⟩ :=
      answers_reward.mp hreward
    · -- The node knows of no rewards, so its report has no split.
      refine ⟨fun ⟨_, text, hreply, _⟩ => ?_, fun _ => rfl⟩
      rw [hmissing] at hreply
      cases hreply
    · have htells := Rewards.isSome_iff_tellsSplit hread
      cases split? with
      | none =>
        refine ⟨fun ⟨_, text', hreply', hsplit⟩ => ?_, fun _ => rfl⟩
        obtain rfl := Except.ok.inj (hreply.symm.trans hreply')
        cases htells.mpr hsplit
      | some split =>
        exact ⟨fun _ => ⟨_, rfl, rfl⟩,
          fun hnone => absurd ⟨hcheckpoint.mp hcheck, text, hreply, htells.mp rfl⟩ hnone⟩
  · rename_i hcheck
    obtain ⟨rfl, -⟩ := h
    exact ⟨fun hsplit => absurd (hcheckpoint.mpr hsplit.1) hcheck, fun _ => rfl⟩

/-- Running balances leave the opening transactions what they are. -/
theorem OpensBlock.of_runs {node : Node} {header : Header} {plain opening : List Transaction}
    (h : OpensBlock node header plain) (hruns : List.Forall₂ Balances.Runs plain opening) :
    OpensBlock node header opening where
  split hsplit := by
    obtain ⟨tx, rfl, hhash⟩ := h.split hsplit
    obtain ⟨shown, rest, ⟨_, _, rfl⟩, hnil, rfl⟩ := List.forall₂_cons_left_iff.mp hruns
    obtain rfl := List.forall₂_nil_left_iff.mp hnil
    exact ⟨_, rfl, hhash⟩
  none hnone := by
    rw [h.none hnone] at hruns
    exact List.forall₂_nil_left_iff.mp hruns

/-! ### Blocks -/

/-- The identifier of the block before one with a number of 63 bits. -/
theorem Header.parentIdentifier_of_lt {header : Header} (hlater : header.number ≠ 0)
    (h : header.number.toNat < 2 ^ 63) :
    header.parentIdentifier = ⟨header.number.toNat - 1, header.parentHash.toHex⟩ := by
  have hpositive := Header.number_pos hlater
  have hone : (1 : UInt64) ≤ header.number := UInt64.le_iff_toNat_le.mpr hpositive
  have hnat : (header.number - 1).toNat = header.number.toNat - 1 :=
    UInt64.toNat_sub_of_le _ _ hone
  rw [Header.parentIdentifier, signed64_of_lt (by omega), hnat, Nat.cast_sub hpositive]
  rfl

/-- The transactions of a block other than the first: those that open it, and behind them each
transaction of its body. -/
theorem Query.transactionsInOrder_of_answers {node : Node} {settings : TraceSettings}
    {header : Header} {body : BlockBody} {shown : List Transaction} {asked : List Asked}
    (hbatch : ∀ calls replies, node.batchReply calls = .ok replies →
      replies.length = calls.length)
    (hlater : header.number ≠ 0)
    (h : Answers node (Query.transactions settings header body) shown asked) :
    ∃ miner opening ordinary, header.sealer = .ok miner ∧
      shown = opening ++ ordinary ∧ OpensBlock node header opening ∧
      ordinary.length = body.transactions.length ∧
      ∀ (i : Nat) tx, body.transactions[i]? = some tx → ∃ receipt trace tx',
        ReceiptAt node body.transactions i receipt ∧
        TraceAt node settings header.hash body.transactions i trace ∧
        ordinary[i]? = some tx' ∧ ShowsAs miner tx receipt trace tx' := by
  obtain ⟨miner, receipts, traces, opening, ordinary, first, second, third, fourth, hminer,
    hreceipts, htraces, hopening, hordinary, hbalances, -⟩ := answers_transactions.mp h
  obtain ⟨hreceiptsLength, hreceiptAt⟩ := receiptAt_of_answers hbatch hreceipts
  obtain ⟨htracesLength, htraceAt⟩ := traceAt_of_answers htraces
  obtain ⟨hlength, hat⟩ :=
    getElem?_transactionsToRosetta hordinary hreceiptsLength htracesLength
  obtain ⟨opening', ordinary', hshown, hrunsOpening, hrunsOrdinary⟩ :=
    forall₂_runs_of_answers hbalances
  refine ⟨miner, opening', ordinary', hminer, hshown,
    (opensBlock_of_answers hlater hopening).of_runs hrunsOpening,
    by rw [← hrunsOrdinary.length_eq, hlength], fun i tx hi => ?_⟩
  obtain ⟨receipt, trace, plain, hreceipt, htrace, hplain, hfirst⟩ := hat i tx hi
  obtain ⟨tx', htx', hruns⟩ := exists_getElem?_of_forall₂ hrunsOrdinary hplain
  exact ⟨receipt, trace, tx', hreceiptAt i receipt hreceipt, htraceAt i trace htrace, htx',
    (showsAs_of_toRosetta hfirst).of_runs hruns⟩

/-- The shape of a block that was assembled from a header and a body. -/
structure BlockShape (node : Node) (settings : TraceSettings) (header : Header) (body : BlockBody)
    (shown : Block) : Prop where
  /-- The header tells whether there are transactions. -/
  transactionsRoot : header.transactionsRoot = emptyRoot ↔ body.transactions = []
  /-- The header tells whether there are uncles. -/
  unclesHash : header.unclesHash = emptyUnclesHash ↔ body.uncles = []
  identifier : shown.identifier = ⟨header.number.toNat, header.hash.toHex⟩
  /-- The first block is its own parent and has no transactions. -/
  first : header.number = 0 → shown.parent = shown.identifier ∧ shown.transactions = []
  /-- Any other block follows its parent. -/
  parent : header.number ≠ 0 →
    shown.parent = ⟨header.number.toNat - 1, header.parentHash.toHex⟩
  /-- Behind the reward transaction each transaction of the body is shown, in their order. -/
  transactions : header.number ≠ 0 → ∃ miner opening ordinary, header.sealer = .ok miner ∧
    shown.transactions = opening ++ ordinary ∧ OpensBlock node header opening ∧
    ordinary.length = body.transactions.length ∧
    ∀ (i : Nat) tx, body.transactions[i]? = some tx → ∃ receipt trace tx',
      ReceiptAt node body.transactions i receipt ∧
      TraceAt node settings header.hash body.transactions i trace ∧
      ordinary[i]? = some tx' ∧ ShowsAs miner tx receipt trace tx'

/-- **Every assembled block has its shape**, if the node replies to each call of a batch: header and
body are read from one reply, and of the transactions of the body none is lost, shown twice, or
shown with what was answered for another. -/
theorem Query.shape_of_answers {node : Node} {settings : TraceSettings}
    {reference : BlockReference} {shown : Block} {asked : List Asked}
    (hbatch : ∀ calls replies, node.batchReply calls = .ok replies →
      replies.length = calls.length)
    (h : Answers node (assemble settings reference) shown asked) :
    ∃ text header body, node.reply ⟨reference.method, [reference.tag, .bool true]⟩ = .ok text ∧
      Header.reader.decode reference.method.name text = .ok header ∧
      BlockBody.reader.decode reference.method.name text = .ok body ∧
      (header.number.toNat < 2 ^ 63 → BlockShape node settings header body shown) := by
  obtain ⟨header, body, uncles, asked₁, asked₂, asked₃, hblock, -, hrest, -⟩ :=
    answers_assemble_iff.mp h
  obtain ⟨text, htext, hheader, hbody, hcheck, -⟩ := answers_block.mp hblock
  obtain ⟨htransactions, huncles⟩ := BlockBody.checkAgainst_eq_ok.mp hcheck
  refine ⟨text, header, body, htext, hheader, hbody, fun hnumber => ?_⟩
  have hidentifier : header.identifier = ⟨header.number.toNat, header.hash.toHex⟩ := by
    rw [Header.identifier, signed64_of_lt hnumber]
  split at hrest
  · rename_i hzero
    obtain ⟨rfl, -⟩ := hrest
    exact {
      transactionsRoot := htransactions
      unclesHash := huncles
      identifier := hidentifier
      first := fun _ => ⟨rfl, rfl⟩
      parent := fun hlater => absurd hzero hlater
      transactions := fun hlater => absurd hzero hlater }
  · rename_i hlater
    obtain ⟨htxs, hshown⟩ := hrest
    exact {
      transactionsRoot := htransactions
      unclesHash := huncles
      identifier := by rw [hshown, hidentifier]
      first := fun hzero => absurd hzero hlater
      parent := fun _ => by rw [hshown, Header.parentIdentifier_of_lt hlater hnumber]
      transactions := fun _ => transactionsInOrder_of_answers hbatch hlater htxs }

namespace OneBlock

theorem hasSplit : HasSplit node header :=
  ⟨by decide, _, rfl, (Rewards.isSome_iff_tellsSplit read_rewardText).mp rfl⟩

/-- The block shows its two transactions behind the reward. -/
theorem exists_parts {txs opening ordinary : List Transaction}
    (hkinds : txs.map Transaction.kinds = kinds) (hopening : OpensBlock node header opening)
    (h : txs = opening ++ ordinary) :
    ∃ reward first second, txs = [reward, first, second] ∧ ordinary = [first, second] := by
  obtain ⟨reward, rfl, -⟩ := hopening.split hasSplit
  have hlength : txs.length = 3 := by
    rw [← List.length_map (f := Transaction.kinds), hkinds]
    rfl
  rw [h] at hlength
  obtain ⟨first, second, rfl⟩ := List.length_eq_two.mp (Nat.succ.inj hlength)
  exact ⟨reward, first, second, h, rfl⟩

/-- The block of the node with one block has the shape of two transactions behind a reward. -/
theorem exists_shape :
    ∃ txs asked, (∀ calls replies, node.batchReply calls = .ok replies →
        replies.length = calls.length) ∧
      Query.Answers node (Query.assemble {} .latest) (shown txs) asked ∧
      txs.map Transaction.kinds = kinds ∧ HasSplit node header ∧
      header.number.toNat < 2 ^ 63 ∧ header.number ≠ 0 ∧
      BlockShape node {} header body (shown txs) := by
  have hbatch : ∀ calls replies, node.batchReply calls = .ok replies →
      replies.length = calls.length := by
    rintro calls replies ⟨⟩
    exact List.length_map _
  obtain ⟨txs, asked, hassemble, hkinds⟩ := exists_answers_assemble {} rfl
  obtain ⟨text, header', body', htext, hheader, hbody, hshape⟩ :=
    Query.shape_of_answers hbatch hassemble
  -- There is only one text that the node gives for a block.
  obtain rfl : String.ofList blockText = text := Except.ok.inj htext
  obtain rfl : header = header' := Except.ok.inj ((decode_header _).symm.trans hheader)
  obtain rfl : body = body' := Except.ok.inj ((decode_body _).symm.trans hbody)
  have hnumber : header.number.toNat < 2 ^ 63 := by decide
  exact ⟨txs, asked, hbatch, hassemble, hkinds, hasSplit, hnumber, by decide, hshape hnumber⟩

end OneBlock

end PosvGateway
