import PosvGateway.Proofs.Balance.Readable
import PosvGateway.Proofs.Query.Shape

/-!
# Fees are exact

The fee of a transaction is the product of the gas that was used and the price that was paid: the
effective price of the receipt, or else the price that the transaction offers. It is computed as an
amount of 256 bits, and if it does not fit, as the greatest one. That is never shown: an amount of
`2 ^ 255` or more is no balance, so no running balances follow from it.

* `Uint256.toNat_saturatingMul` : the greatest amount in place of a product that does not fit;
* `LedgerTransaction.fee` : the fee of a transaction with its receipt;
* `PaysFee` : a transaction opens with its fee, to the unit;
* `Query.fees_exact` : **the fees in an assembled block are exact**, and where one of them is no
  balance, no block is assembled.
-/

namespace PosvGateway

/-! ### Products -/

theorem Uint256.toNat_saturatingMul (a b : Uint256) :
    (saturatingMul a b).toNat = min (a.toNat * b.toNat) (2 ^ 256 - 1) := by
  rw [saturatingMul, ofNat?, Numeral.size_eq]
  split
  · rename_i hlt
    rw [Option.getD_some, BitVec.toNat_ofNat, Nat.mod_eq_of_lt hlt]
    omega
  · rename_i hge
    rw [Option.getD_none, max, BitVec.toNat_allOnes]
    omega

/-! ### Fees -/

/-- The fee of a transaction: the gas that was used, at the effective price of the receipt, or where
it has none at the price that the transaction offers. -/
def LedgerTransaction.fee (tx : LedgerTransaction) (receipt : Receipt) : Nat :=
  match receipt.effectiveGasPrice with
  | some price => receipt.gasUsed.toNat * price.toNat
  | none => receipt.gasUsed.toNat * tx.gasPrice.toNat

theorem LedgerTransaction.fee_eq (tx : LedgerTransaction) (receipt : Receipt) :
    tx.fee receipt = receipt.gasUsed.toNat * (tx.paidPrice receipt).toNat := by
  rw [fee, paidPrice]
  cases receipt.effectiveGasPrice <;> rfl

/-- The operation moves a fee. -/
structure Operation.MovesFee (account : Address) (value : Int) (op : Operation) : Prop where
  kind : op.kind = OperationType.fee
  status : op.status = some OperationStatus.success
  account : op.account = some (.ofAddress account)
  amount : op.amount = some ⟨Numeral.signedDecimal value, .native⟩

/-- The transaction opens with its fee, to the unit, and the fee is a balance. -/
structure PaysFee (miner : Address) (tx : LedgerTransaction) (receipt : Receipt)
    (shown : Transaction) : Prop where
  /-- The sender pays. -/
  payer : ∃ op, shown.operations[0]? = some op ∧ op.MovesFee tx.sender (-tx.fee receipt)
  /-- The sealer receives. -/
  payee : ∃ op, shown.operations[1]? = some op ∧ op.MovesFee miner (tx.fee receipt)
  lt : tx.fee receipt < 2 ^ 255

variable {miner : Address} {tx : LedgerTransaction}

/-- If running balances follow from a transaction, it opens with its fee. -/
theorem paysFee_of_toRosetta {receipt trace : String} {plain : Transaction} {parsed : Receipt}
    (hparsed : Receipt.reader.decode Method.transactionReceipt.name receipt = .ok parsed)
    (h : tx.toRosetta miner receipt trace = .ok plain)
    (hreadable : ∀ op ∈ plain.operations, op.Readable) : PaysFee miner tx parsed plain := by
  obtain ⟨parsed', hparsed', hshown⟩ := LedgerTransaction.toRosetta_eq_ok.mp h
  obtain rfl := Except.ok.inj (hparsed.symm.trans hparsed')
  obtain ⟨root, receiptValue, traceValue, operations, -, -, -, -, rfl⟩ :=
    Executed.toRosetta_eq_ok.mp hshown
  have hcredit : (parsed.gasUsed.saturatingMul (tx.paidPrice parsed)).toNat < 2 ^ 255 :=
    (Operation.readable_credit_iff rfl rfl rfl).mp
      (hreadable _ (List.mem_append_left _ (List.mem_cons_of_mem _ List.mem_cons_self)))
  -- Below this bound the product is not replaced by the greatest amount.
  have hmin := Uint256.toNat_saturatingMul parsed.gasUsed (tx.paidPrice parsed)
  have hfee : (parsed.gasUsed.saturatingMul (tx.paidPrice parsed)).toNat = tx.fee parsed := by
    rw [tx.fee_eq]
    omega
  have hpayer : Amount.debit (parsed.gasUsed.saturatingMul (tx.paidPrice parsed)) =
      ⟨Numeral.signedDecimal (-tx.fee parsed), .native⟩ := by
    rw [Amount.debit, hfee]
  have hpayee : Amount.credit (parsed.gasUsed.saturatingMul (tx.paidPrice parsed)) =
      ⟨Numeral.signedDecimal (tx.fee parsed), .native⟩ := by
    rw [Amount.credit, hfee]
    rfl
  exact {
    payer := ⟨_, rfl, rfl, rfl, rfl, congrArg some hpayer⟩
    payee := ⟨_, rfl, rfl, rfl, rfl, congrArg some hpayee⟩
    lt := hfee ▸ hcredit }

theorem Operation.MovesFee.noteAt {account : Address} {value : Int} {op : Operation}
    (h : op.MovesFee account value) (opening : String → Int) (upTo : List Operation) :
    (Balances.noteAt opening upTo op).MovesFee account value where
  kind := by rw [Balances.noteAt_kind, h.kind]
  status := by rw [Balances.noteAt_status, h.status]
  account := by rw [Balances.noteAt_account, h.account]
  amount := by rw [Balances.noteAt_amount, h.amount]

/-- Running balances change no fee. -/
theorem PaysFee.of_runs {parsed : Receipt} {plain shown : Transaction}
    (h : PaysFee miner tx parsed plain) (hruns : Balances.Runs plain shown) :
    PaysFee miner tx parsed shown := by
  obtain ⟨opening, earlier, rfl⟩ := hruns
  obtain ⟨op, hpayer, hmoves⟩ := h.payer
  obtain ⟨op', hpayee, hmoves'⟩ := h.payee
  obtain ⟨upTo, hpayer⟩ := Balances.getElem?_running hpayer
  obtain ⟨upTo', hpayee⟩ := Balances.getElem?_running hpayee
  exact {
    payer := ⟨_, hpayer, hmoves.noteAt opening upTo⟩
    payee := ⟨_, hpayee, hmoves'.noteAt opening upTo'⟩
    lt := h.lt }

namespace Query

variable {node : Node} {asked : List Asked} {settings : TraceSettings}

/-! ### Blocks -/

/-- The transactions of a block other than the first are shown, if at all, with their fees. -/
theorem fees_of_answers_transactions {header : Header} {body : BlockBody}
    {shown : List Transaction} (hlater : header.number ≠ 0)
    (h : Answers node (Query.transactions settings header body) shown asked) :
    ∃ miner opening ordinary, header.sealer = .ok miner ∧ shown = opening ++ ordinary ∧
      OpensBlock node header opening ∧
      (∀ (i : Nat) tx', ordinary[i]? = some tx' → ∃ tx receipt parsed,
        body.transactions[i]? = some tx ∧ ReceiptAt node body.transactions i receipt ∧
        Receipt.reader.decode Method.transactionReceipt.name receipt = .ok parsed ∧
        PaysFee miner tx parsed tx') ∧
      ∀ (i : Nat) tx receipt, body.transactions[i]? = some tx →
        ReceiptAt node body.transactions i receipt → ∃ tx', ordinary[i]? = some tx' := by
  obtain ⟨miner, receipts, traces, opening, ordinary, first, second, third, fourth, hminer,
    hreceipts, htraces, hopening, hordinary, hbalances, -⟩ := answers_transactions.mp h
  obtain ⟨htracesLength, -⟩ := traceAt_of_answers htraces
  obtain ⟨replies, balances, -, -, hreadable, -⟩ := answers_withRunningBalances.mp hbalances
  obtain ⟨opening', ordinary', hshown, hrunsOpening, hrunsOrdinary⟩ :=
    forall₂_runs_of_answers hbalances
  refine ⟨miner, opening', ordinary', hminer, hshown,
    (opensBlock_of_answers hlater hopening).of_runs hrunsOpening, fun i tx' hi => ?_,
    fun i tx receipt hi hreceipt => ?_⟩
  · obtain ⟨plain, hplain, hruns⟩ := exists_getElem?_of_forall₂ hrunsOrdinary.flip hi
    obtain ⟨tx, receipt, trace, htx, hreceipt, -, htoRosetta⟩ :=
      of_getElem?_transactionsToRosetta hordinary hplain
    obtain ⟨parsed, hparsed, -⟩ := LedgerTransaction.toRosetta_eq_ok.mp htoRosetta
    have hsome : body.transactions ≠ [] := List.ne_nil_of_mem (List.mem_of_getElem? htx)
    have hmem : plain ∈ opening ++ ordinary :=
      List.mem_append_right _ (List.mem_of_getElem? hplain)
    have hpays := paysFee_of_toRosetta hparsed htoRosetta fun op hop =>
      hreadable op (List.mem_flatMap.mpr ⟨plain, hmem, hop⟩)
    exact ⟨tx, receipt, parsed, htx, (getElem?_eq_some_iff_receiptAt hsome hreceipts).mp hreceipt,
      hparsed, hpays.of_runs hruns⟩
  · obtain ⟨hlt, -⟩ := List.getElem?_eq_some_iff.mp hi
    have hsome : body.transactions ≠ [] := List.ne_nil_of_mem (List.mem_of_getElem? hi)
    have htrace : traces[i]? = some traces[i] := List.getElem?_eq_getElem (by omega)
    obtain ⟨plain, hplain, -⟩ := exists_getElem?_transactionsToRosetta hordinary hi
      ((getElem?_eq_some_iff_receiptAt hsome hreceipts).mpr hreceipt) htrace
    obtain ⟨tx', htx', -⟩ := exists_getElem?_of_forall₂ hrunsOrdinary hplain
    exact ⟨tx', htx'⟩

/-- **Fees are exact.** Where a block other than the first is assembled, each of its transactions
behind the reward opens with its fee: the product of the gas that its receipt tells and the
effective price, or where the receipt has none the offered one, whatever amounts these are. If the
product is no balance, no block is assembled. -/
theorem fees_exact (node : Node) (settings : TraceSettings) (reference : BlockReference) :
    (∀ shown, result node (assemble settings reference) = .ok shown →
      ∃ header body, result node (block reference) = .ok (header, body) ∧
        shown.identifier = header.identifier ∧
        (header.number ≠ 0 → ∃ miner opening ordinary, header.sealer = .ok miner ∧
          shown.transactions = opening ++ ordinary ∧ OpensBlock node header opening ∧
          ∀ (i : Nat) tx', ordinary[i]? = some tx' → ∃ tx receipt parsed,
            body.transactions[i]? = some tx ∧ ReceiptAt node body.transactions i receipt ∧
            Receipt.reader.decode Method.transactionReceipt.name receipt = .ok parsed ∧
            PaysFee miner tx parsed tx')) ∧
    (∀ header body (i : Nat) tx receipt parsed,
      result node (block reference) = .ok (header, body) → header.number ≠ 0 →
      body.transactions[i]? = some tx → ReceiptAt node body.transactions i receipt →
      Receipt.reader.decode Method.transactionReceipt.name receipt = .ok parsed →
      2 ^ 255 ≤ tx.fee parsed →
      ∃ e, result node (assemble settings reference) = .error e) := by
  constructor
  · intro shown hshown
    obtain ⟨asked, h⟩ := result_eq_ok.mp hshown
    obtain ⟨header, body, hblock, hidentifier, htxs⟩ := exists_answers_transactions h
    refine ⟨header, body, hblock, hidentifier, fun hlater => ?_⟩
    obtain ⟨asked', htxs⟩ := htxs hlater
    obtain ⟨miner, opening, ordinary, hminer, hsplit, hopens, hpays, -⟩ :=
      fees_of_answers_transactions hlater htxs
    exact ⟨miner, opening, ordinary, hminer, hsplit, hopens, hpays⟩
  · intro header body i tx receipt parsed hblock hlater htx hreceipt hparsed hfee
    refine exists_error_of_not_answers fun shown asked h => ?_
    obtain ⟨header', body', hblock', -, htxs⟩ := exists_answers_transactions h
    obtain ⟨rfl, rfl⟩ := Prod.mk.inj (Except.ok.inj (hblock.symm.trans hblock'))
    obtain ⟨asked', htxs⟩ := htxs hlater
    obtain ⟨miner, opening, ordinary, -, -, -, hpays, hshown⟩ :=
      fees_of_answers_transactions hlater htxs
    -- The transaction is shown, so its fee would be a balance.
    obtain ⟨tx', htx'⟩ := hshown i tx receipt htx hreceipt
    obtain ⟨tx₁, receipt₁, parsed₁, htx₁, hreceipt₁, hparsed₁, hpaid⟩ := hpays i tx' htx'
    obtain rfl := Option.some.inj (htx.symm.trans htx₁)
    obtain rfl := hreceipt.unique hreceipt₁
    obtain rfl := Except.ok.inj (hparsed.symm.trans hparsed₁)
    exact absurd hpaid.lt (Nat.not_lt.mpr hfee)

end Query

/-! ### A node that tells of too much gas -/

namespace OneBlock

open Chars (array)

/-- The receipt of a transaction that used `2 ^ 254` units of gas. -/
def lavishReceipt : Receipt := ⟨some 1, BitVec.ofNat 256 (2 ^ 254), none⟩

/-- The text of that receipt. -/
def lavishText : List Char :=
  array [number 1, '"' :: '0' :: 'x' :: '4' :: List.replicate 63 '0' ++ ['"']]

/-- The node with one block, but for the receipts. -/
def lavishNode : Node where
  reply := answer
  batchReply calls := .ok (calls.map fun call =>
    if call.method = .transactionReceipt then .ok (String.ofList lavishText) else answer call)

theorem decode_lavishText (what : String) :
    Receipt.reader.decode what (String.ofList lavishText) = .ok lavishReceipt :=
  Reader.decode_ofList (by decide +kernel) what

/-- The fees of both transactions are shown. The first used 21 units of gas at the effective price
of two, although it offers three; the second used 40 units at the four that it offers. At three for
each, `2 ^ 254` units of gas are too many. -/
theorem fees_exact_lavish :
    (∃ reward first second,
      Query.result node (Query.assemble {} .latest) = .ok (shown [reward, first, second]) ∧
      header.number ≠ 0 ∧ transaction.gasPrice = 3 ∧
      (∃ op, first.operations[0]? = some op ∧ op.MovesFee transaction.sender (-42)) ∧
      (∃ op, first.operations[1]? = some op ∧ op.MovesFee sealerKey.address 42) ∧
      (∃ op, second.operations[0]? = some op ∧ op.MovesFee later.sender (-160)) ∧
      ∃ op, second.operations[1]? = some op ∧ op.MovesFee sealerKey.address 160) ∧
    Query.result lavishNode (Query.block .latest) = .ok (header, body) ∧
      body.transactions[0]? = some transaction ∧
      ReceiptAt lavishNode body.transactions 0 (String.ofList lavishText) ∧
      2 ^ 255 ≤ transaction.fee lavishReceipt ∧
      ∃ e, Query.result lavishNode (Query.assemble {} .latest) = .error e := by
  have hblock : ∀ other : Node, other.reply = answer →
      Query.result other (Query.block .latest) = .ok (header, body) := fun other hreply =>
    Query.result_eq_ok.mpr (answers_block (by rw [hreply]; rfl))
  have hlater : header.number ≠ 0 := by decide
  constructor
  · obtain ⟨txs, asked, hassemble, hkinds⟩ := exists_answers_assemble {} rfl
    have hshown := Query.result_eq_ok.mpr ⟨asked, hassemble⟩
    obtain ⟨header', body', hblock', -, hfees⟩ :=
      (Query.fees_exact node {} .latest).1 (shown txs) hshown
    obtain ⟨rfl, rfl⟩ : header = header' ∧ body = body' :=
      Prod.mk.inj (Except.ok.inj ((hblock node rfl).symm.trans hblock'))
    obtain ⟨miner, opening, ordinary, hminer, hsplit, hopens, hpays⟩ := hfees hlater
    obtain rfl : sealerKey.address = miner := Except.ok.inj (sealer_header.symm.trans hminer)
    obtain ⟨reward, first, second, rfl, rfl⟩ := exists_parts hkinds hopens hsplit
    have hreplies := batchReply_receipts (rfl : node.batchReply = node.batchReply)
    have hfirst : PaysFee sealerKey.address transaction receipt first := by
      obtain ⟨tx, text, parsed, htx, hreceipt, hparsed, hpaid⟩ := hpays 0 first rfl
      obtain rfl : transaction = tx := Option.some.inj htx
      obtain rfl := hreceipt.unique ⟨_, hreplies, rfl⟩
      obtain rfl := Except.ok.inj ((decode_receipt _).symm.trans hparsed)
      exact hpaid
    have hsecond : PaysFee sealerKey.address later laterReceipt second := by
      obtain ⟨tx, text, parsed, htx, hreceipt, hparsed, hpaid⟩ := hpays 1 second rfl
      obtain rfl : later = tx := Option.some.inj htx
      obtain rfl := hreceipt.unique ⟨_, hreplies, rfl⟩
      obtain rfl := Except.ok.inj ((decode_laterReceipt _).symm.trans hparsed)
      exact hpaid
    exact ⟨reward, first, second, hshown, hlater, rfl, hfirst.payer, hfirst.payee, hsecond.payer,
      hsecond.payee⟩
  · have hreceipt : ReceiptAt lavishNode body.transactions 0 (String.ofList lavishText) :=
      ⟨_, rfl, rfl⟩
    have hfee : 2 ^ 255 ≤ transaction.fee lavishReceipt := by decide
    exact ⟨hblock lavishNode rfl, rfl, hreceipt, hfee,
      (Query.fees_exact lavishNode {} .latest).2 header body 0 transaction _ lavishReceipt
        (hblock lavishNode rfl) hlater rfl hreceipt (decode_lavishText _) hfee⟩

end OneBlock

end PosvGateway
