import PosvGateway.Proofs.Query.Shape
import PosvGateway.Proofs.Trace.Pairing

/-!
# The operations of a block are numbered and paired

Running balances are noted in the metadata of operations. They neither renumber nor unlink them, so
the operations of a block are numbered and paired as those of the legs they come from.

* `Operation.Numbered.running`, `Operation.DestroyedLast.running` : both laws survive annotation;
* `ShowsTrace` : a transaction that is shown ends with what its trace loses;
* `Query.numbered_of_answers` : **every transaction of an assembled block is numbered and paired**,
  and what is lost with destroyed accounts comes last.
-/

namespace PosvGateway

/-! ### Annotation -/

namespace Operation

variable {opening : String → Int} {earlier ops : List Operation}

theorem Offsets.noteAt {upTo upTo' : List Operation} {credit debit : Operation}
    (h : credit.Offsets debit) :
    (Balances.noteAt opening upTo credit).Offsets (Balances.noteAt opening upTo' debit) where
  kind := by rw [Balances.noteAt_kind, Balances.noteAt_kind, h.kind]
  status := by rw [Balances.noteAt_status, Balances.noteAt_status, h.status]
  amount := by
    rw [Balances.noteAt_amount, Balances.noteAt_amount]
    exact h.amount

/-- Annotation keeps numbers and links. -/
theorem Numbered.running (h : Numbered ops) : Numbered (Balances.running opening earlier ops) := by
  refine .of_linksBack (fun i shown hi => ?_) fun i shown hi => ?_
  · obtain ⟨op, upTo, hop, rfl⟩ := Balances.of_getElem?_running hi
    rw [Balances.noteAt_index, h.index i op hop]
  · obtain ⟨op, upTo, hop, rfl⟩ := Balances.of_getElem?_running hi
    rw [LinksBack, Balances.noteAt_related]
    obtain hnone | ⟨j, debit, rfl, hrelated, hj, hdebit, hoffsets⟩ := h.links i op hop
    · exact .inl hnone
    · obtain ⟨upTo', hj⟩ : ∃ upTo, (Balances.running opening earlier ops)[j]? =
          some (Balances.noteAt opening upTo debit) := Balances.getElem?_running hj
      exact .inr ⟨j, _, rfl, hrelated, hj, by rw [Balances.noteAt_related, hdebit],
        hoffsets.noteAt⟩

/-- Annotation keeps the order of operations. -/
theorem DestroyedLast.running (h : DestroyedLast ops) :
    DestroyedLast (Balances.running opening earlier ops) := by
  obtain ⟨front, back, rfl, hfront, hback⟩ := h
  refine ⟨_, _, Balances.running_append opening earlier front back, ?_, ?_⟩
  · refine Balances.forall_running (fun opening earlier op hop => ?_) hfront
    rwa [Balances.noteAt_kind]
  · refine Balances.forall_running (fun opening earlier op hop => ?_) hback
    rwa [Balances.noteAt_kind, Balances.noteAt_related]

theorem Numbered.of_runs {plain shown : Transaction} (h : Numbered plain.operations)
    (hruns : Balances.Runs plain shown) : Numbered shown.operations := by
  obtain ⟨opening, earlier, rfl⟩ := hruns
  exact h.running

theorem DestroyedLast.of_runs {plain shown : Transaction} (h : DestroyedLast plain.operations)
    (hruns : Balances.Runs plain shown) : DestroyedLast shown.operations := by
  obtain ⟨opening, earlier, rfl⟩ := hruns
  exact h.running

end Operation

/-! ### Transactions -/

theorem Executed.numbered_of_toRosetta {tx : Executed} {shown : Transaction}
    (h : tx.toRosetta = .ok shown) : Operation.Numbered shown.operations := by
  obtain ⟨root, remains, -, -, -, hoperations⟩ := operations_of_toRosetta h
  rw [hoperations]
  exact Operation.numbered_number (tx.coupled_legs root.flatten remains)

theorem Executed.destroyedLast_of_toRosetta {tx : Executed} {shown : Transaction}
    (h : tx.toRosetta = .ok shown) :
    ∃ root, CallFrame.reader.run tx.trace = .ok root ∧
      ((∀ call ∈ root.flatten, call.kind ≠ OperationType.destruct) →
        Operation.DestroyedLast shown.operations) := by
  obtain ⟨root, remains, hroot, -, -, hoperations⟩ := operations_of_toRosetta h
  refine ⟨root, hroot, fun hkind => ?_⟩
  rw [hoperations]
  exact tx.destroyedLast_legs hkind remains

theorem Rewards.numbered_transaction (block : Digest) (rewards : Rewards) :
    Operation.Numbered (rewards.transaction block).operations :=
  Operation.numbered_number rewards.coupled_legs

/-- The transaction shown for one of the body comes from its trace. Unless a frame of the trace
passes for a destroyed account, what is lost with destroyed accounts comes last. -/
def ShowsTrace (node : Node) (settings : TraceSettings) (header : Header) (body : BlockBody)
    (i : Nat) (shown : Transaction) : Prop :=
  ∃ tx trace root, body.transactions[i]? = some tx ∧ shown.hash = tx.hash.toHex ∧
    TraceAt node settings header.hash body.transactions i trace ∧
    CallFrame.reader.run trace = .ok root ∧
    ((∀ call ∈ root.flatten, call.kind ≠ OperationType.destruct) →
      Operation.DestroyedLast shown.operations)

namespace Query

variable {node : Node} {asked : List Asked} {settings : TraceSettings}

/-- The transactions of a block other than the first. -/
theorem numbered_of_answers_transactions {header : Header} {body : BlockBody}
    {shown : List Transaction} (hlater : header.number ≠ 0)
    (h : Answers node (Query.transactions settings header body) shown asked) :
    (∀ tx ∈ shown, Operation.Numbered tx.operations) ∧
      ∃ opening ordinary, shown = opening ++ ordinary ∧ OpensBlock node header opening ∧
        ∀ (i : Nat) tx, ordinary[i]? = some tx → ShowsTrace node settings header body i tx := by
  obtain ⟨miner, receipts, traces, opening, ordinary, first, second, third, fourth, -, -,
    htraces, hopening, hordinary, hbalances, -⟩ := answers_transactions.mp h
  obtain ⟨-, htraceAt⟩ := traceAt_of_answers htraces
  obtain ⟨opening', ordinary', rfl, hrunsOpening, hrunsOrdinary⟩ :=
    forall₂_runs_of_answers hbalances
  have hbody : ∀ (i : Nat) tx, ordinary'[i]? = some tx →
      Operation.Numbered tx.operations ∧ ShowsTrace node settings header body i tx := by
    intro i tx hi
    obtain ⟨plain, hplain, hruns⟩ := exists_getElem?_of_forall₂ hrunsOrdinary.flip hi
    obtain ⟨ledgerTx, receipt, trace, hledgerTx, -, htrace, htoRosetta⟩ :=
      of_getElem?_transactionsToRosetta hordinary hplain
    obtain ⟨parsed, -, hexecuted⟩ := LedgerTransaction.toRosetta_eq_ok.mp htoRosetta
    obtain ⟨root, hroot, hlast⟩ := Executed.destroyedLast_of_toRosetta hexecuted
    exact ⟨(Executed.numbered_of_toRosetta hexecuted).of_runs hruns, ledgerTx, trace, root,
      hledgerTx, ((showsAs_of_toRosetta htoRosetta).of_runs hruns).hash, htraceAt i trace htrace,
      hroot, fun hkind => (hlast hkind).of_runs hruns⟩
  refine ⟨fun tx htx => ?_, opening', ordinary', rfl,
    (opensBlock_of_answers hlater hopening).of_runs hrunsOpening, fun i tx hi => (hbody i tx hi).2⟩
  rcases List.mem_append.mp htx with htx | htx
  · obtain ⟨i, hi⟩ := List.mem_iff_getElem?.mp htx
    obtain ⟨plain, hplain, hruns⟩ := exists_getElem?_of_forall₂ hrunsOpening.flip hi
    obtain ⟨split, rfl⟩ :=
      exists_rewards_of_openingTransactions hopening plain (List.mem_of_getElem? hplain)
    exact (split.numbered_transaction header.hash).of_runs hruns
  · obtain ⟨i, hi⟩ := List.mem_iff_getElem?.mp htx
    exact (hbody i tx hi).1

/-- **Every transaction of an assembled block is numbered and paired**, the reward transaction of a
checkpoint included. Behind it, each transaction comes from the trace of the one at its place in the
body: what is lost with destroyed accounts comes last, unless a frame of the trace passes for it. -/
theorem numbered_of_answers {reference : BlockReference} {shown : Block}
    (h : Answers node (assemble settings reference) shown asked) :
    (∀ tx ∈ shown.transactions, Operation.Numbered tx.operations) ∧
      ∃ text header body, node.reply ⟨reference.method, [reference.tag, .bool true]⟩ = .ok text ∧
        Header.reader.decode reference.method.name text = .ok header ∧
        BlockBody.reader.decode reference.method.name text = .ok body ∧
        (header.number = 0 → shown.transactions = []) ∧
        (header.number ≠ 0 → ∃ opening ordinary, shown.transactions = opening ++ ordinary ∧
          OpensBlock node header opening ∧
          ∀ (i : Nat) tx, ordinary[i]? = some tx → ShowsTrace node settings header body i tx) := by
  obtain ⟨header, body, uncles, asked₁, asked₂, asked₃, hblock, -, hrest, -⟩ :=
    answers_assemble_iff.mp h
  obtain ⟨text, htext, hheader, hbody, -, -⟩ := answers_block.mp hblock
  split at hrest
  · rename_i hzero
    obtain ⟨rfl, -⟩ := hrest
    exact ⟨nofun, text, header, body, htext, hheader, hbody, fun _ => rfl,
      fun hlater => absurd hzero hlater⟩
  · rename_i hlater
    obtain ⟨hnumbered, hordinary⟩ := numbered_of_answers_transactions hlater hrest.1
    exact ⟨hnumbered, text, header, body, htext, hheader, hbody,
      fun hzero => absurd hzero hlater, fun _ => hordinary⟩

end Query

/-- The block of the node with one block: the rewards and both transactions are numbered and paired,
and the recipient that the second transaction destroys comes last of its operations, since no frame
of the trace passes for it. -/
theorem OneBlock.exists_numbered :
    ∃ reward first second asked,
      Query.Answers node (Query.assemble {} .latest) (shown [reward, first, second]) asked ∧
      [reward, first, second].map Transaction.kinds = kinds ∧ HasSplit node header ∧
      (∀ tx ∈ [reward, first, second], Operation.Numbered tx.operations) ∧
      (∀ call ∈ laterFrames, call.kind ≠ OperationType.destruct) ∧
      Operation.DestroyedLast second.operations := by
  obtain ⟨txs, asked, hassemble, hkinds⟩ := exists_answers_assemble {} rfl
  obtain ⟨hnumbered, text, header', body', htext, hheader, hbody, -, htransactions⟩ :=
    Query.numbered_of_answers hassemble
  -- There is only one text that the node gives for a block.
  obtain rfl : String.ofList blockText = text := Except.ok.inj htext
  obtain rfl : header = header' := Except.ok.inj ((decode_header _).symm.trans hheader)
  obtain rfl : body = body' := Except.ok.inj ((decode_body _).symm.trans hbody)
  obtain ⟨opening, ordinary, happend, hopening, hordinary⟩ := htransactions (by decide)
  obtain ⟨reward, first, second, rfl, rfl⟩ := exists_parts hkinds hopening happend
  obtain ⟨ledgerTx, trace, root, hledgerTx, -, htrace, hroot, hlast⟩ := hordinary 1 second rfl
  obtain rfl : later = ledgerTx := Option.some.inj hledgerTx
  rw [TraceAt, if_neg (by decide)] at htrace
  obtain ⟨ledgerTx', hledgerTx', htext⟩ := htrace
  obtain rfl : later = ledgerTx' := Option.some.inj hledgerTx'
  obtain rfl := Except.ok.inj ((answer_traceTransaction _).2.symm.trans htext)
  obtain ⟨root', hroot', hflat⟩ := Option.map_eq_some_iff.mp finish_traces.2.1
  obtain rfl : root' = root := Except.ok.inj ((Reader.run_ofList hroot').symm.trans hroot)
  have hkind : ∀ call ∈ laterFrames, call.kind ≠ OperationType.destruct := by decide
  exact ⟨reward, first, second, asked, hassemble, hkinds, hasSplit, hnumbered, hkind,
    hlast (hflat ▸ hkind)⟩

end PosvGateway
