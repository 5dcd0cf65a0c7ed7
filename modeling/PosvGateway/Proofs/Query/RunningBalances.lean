import PosvGateway.Proofs.Balance
import PosvGateway.Proofs.Balance.Readable
import PosvGateway.Proofs.Hex
import PosvGateway.Proofs.Json
import PosvGateway.Proofs.Keccak
import PosvGateway.Proofs.Query.Assembly

/-!
# Running balances open as the node tells

* `mem_namedAccounts`, `nodup_namedAccounts` : every account that is named is asked for, and once;
* `Opens` : the balances that a node tells of accounts at a block;
* `RunsFrom` : the law of running balances, from the question to the node to the text in each
  operation;
* `runsFrom_of_answers` : the law holds of what `withRunningBalances` answers;
* `Query.running_balances` : and so of blocks and of transactions in the pool;
* `OneBlock.node` : a node with one block, a checkpoint of two transactions, which shows the law at
  work.
-/

namespace PosvGateway

/-! ### Named accounts -/

/-- The call that asks for the balance of an account. -/
def balanceCall (tag : Json) (account : String) : Call := ⟨.balance, [.string account, tag]⟩

/-- The balance that a reply tells; a reply that is missing tells that there is none. -/
def Tells (balance : Int) : Option Reply → Prop
  | some reply => ∃ text v, reply = .ok text ∧
      Reader.uint256.decode Method.balance.name text = .ok v ∧ balance = v.toNat
  | none => balance = 0

namespace Balances

theorem ofReply_eq_ok {reply : Reply} {balance : Int256} :
    ofReply reply = .ok balance ↔
      ∃ text v, reply = .ok text ∧ Reader.uint256.decode Method.balance.name text = .ok v ∧
        Int256.ofUint256? v = some balance := by
  simp only [ofReply, Except.bind_eq_ok, Except.mapError_eq_ok]
  constructor
  · rintro ⟨text, htext, v, hv, h⟩
    split at h
    · rename_i balance' hbalance
      cases h
      exact ⟨text, v, htext, hv, hbalance⟩
    · cases h
  · rintro ⟨text, v, htext, hv, hbalance⟩
    exact ⟨text, htext, v, hv, by rw [hbalance]; rfl⟩

theorem answers_fetch {node : Node} {accounts : List String} {tag : Json} {balances : Balances}
    {asked : List Asked} :
    Query.Answers node (fetch accounts tag) balances asked ↔
      ∃ replies, Query.Answers node (Query.batch (accounts.map (balanceCall tag))) replies asked ∧
        ofReplies accounts replies = .ok balances := by
  rw [fetch, Query.answers_bind_ofExcept]
  rfl

end Balances

/-! ### The law -/

/-- What `withRunningBalances` answers. -/
theorem Query.answers_withRunningBalances {node : Node} {txs txs' : List Transaction} {tag : Json}
    {asked : List Asked} :
    Answers node (withRunningBalances txs tag) txs' asked ↔
      ∃ replies balances,
        Answers node (batch ((namedAccounts txs).map (balanceCall tag))) replies asked ∧
        Balances.ofReplies (namedAccounts txs) replies = .ok balances ∧
        (∀ op ∈ txs.flatMap Transaction.operations, op.Readable) ∧
        txs' = Balances.runningTransactions balances.openingOf [] txs := by
  simp only [withRunningBalances, answers_bind, Balances.answers_fetch]
  constructor
  · rintro ⟨balances, first, rest, ⟨replies, hbatch, hreplies⟩, h, rfl⟩
    cases hannotate : balances.annotate txs with
    | mk annotated result =>
      rw [hannotate] at h
      cases result with
      | error e => exact absurd h not_answers_throw
      | ok u =>
        obtain ⟨rfl, rfl⟩ := answers_pure.mp h
        have hreadable := Balances.readable_of_annotate hannotate
        have hrunning := Balances.annotate_eq (Balances.follows_openingOf balances) hreadable
        rw [hannotate] at hrunning
        rw [List.append_nil]
        exact ⟨replies, balances, hbatch, hreplies, hreadable, (Prod.mk.inj hrunning).1⟩
  · rintro ⟨replies, balances, hbatch, hreplies, hreadable, rfl⟩
    refine ⟨balances, asked, [], ⟨replies, hbatch, hreplies⟩, ?_, (List.append_nil _).symm⟩
    rw [Balances.annotate_eq (Balances.follows_openingOf balances) hreadable]
    exact answers_pure.mpr ⟨rfl, rfl⟩

namespace Query

variable {node : Node} {asked : List Asked}

end Query

/-! ### A node with one block -/

/-- The types of the operations of a transaction. -/
def Transaction.kinds (tx : Transaction) : List String := tx.operations.map (·.kind)

/-- Running balances leave the types of operations as they are. -/
theorem Balances.map_kinds_runningTransactions (opening : String → Int) (earlier : List Operation)
    (txs : List Transaction) :
    (runningTransactions opening earlier txs).map Transaction.kinds
      = txs.map Transaction.kinds := by
  induction txs generalizing earlier with
  | nil => rfl
  | cons tx txs ih =>
    rw [runningTransactions, List.map_cons, List.map_cons, ih]
    exact congrArg (· :: _) (map_running (fun _ _ _ => noteAt_kind ..) tx.operations)

/-- The replies to all accounts being the same, so are the balances. -/
theorem Balances.ofReplies_map {reply : Reply} {balance : Int256}
    (h : ofReply reply = .ok balance) (accounts : List String) :
    ofReplies accounts (accounts.map fun _ => reply)
      = .ok (accounts.map fun account => (account, balance)) := by
  induction accounts with
  | nil => rfl
  | cons account accounts ih =>
    rw [List.map_cons, ofReplies, h, ih]
    rfl

deriving instance DecidableEq for BlockBody, Receipt

namespace OneBlock

open Chars (array object quoted)

/-- The characters of a JSON number. -/
def number (n : Nat) : List Char := Nat.toDigits 10 n

/-- The characters of a byte string as a JSON array. -/
def bytes (bytes : Bytes) : List Char := array (bytes.map fun b => number b.toNat)

/-- The characters of an address as a JSON string. -/
def address (a : Address) : List Char := '"' :: '0' :: 'x' :: Hex.digits a.bytes ++ ['"']

/-- The account of the recipient. -/
def recipient : Address := .ofNat 20 0x22

/-- The account that takes what the recipient has when it destroys itself. -/
def heir : Address := .ofNat 20 0x33

/-- The first transaction: a transfer of five units. -/
def transaction : LedgerTransaction where
  hash := .ofNat 32 1
  sender := .ofNat 20 0x11
  recipient := some recipient
  value := 5
  gas := 30
  gasPrice := 3
  input := []
  nonce := 7

/-- The second transaction, after whose transfer the recipient destroys itself. -/
def later : LedgerTransaction :=
  { transaction with hash := .ofNat 32 2, gas := 90, gasPrice := 4, nonce := 8 }

/-- The header of the only block, a checkpoint. -/
def header : Header where
  hash := .ofNat 32 0xb1
  parentHash := .ofNat 32 0xb0
  unclesHash := emptyUnclesHash
  miner := .zero 20
  stateRoot := .zero 32
  transactionsRoot := .zero 32
  receiptsRoot := .zero 32
  logsBloom := .zero 256
  difficulty := 1
  number := 900
  gasLimit := 120
  gasUsed := 61
  timestamp := 1000
  extraData :=
    Bytes.ofNatSized 32 0x79be667ef9dcbbac55a06295ce870b07029bfcdb2dce28d959f2815b16f81798
      ++ Bytes.ofNatSized 32 1 ++ [0]
  mixHash := .zero 32
  nonce := .zero 8

/-- The body of the only block. -/
def body : BlockBody := ⟨[transaction, later], []⟩

/-- The text of a transaction to the recipient. -/
def transactionText (tx : LedgerTransaction) : List Char :=
  array [bytes tx.hash.bytes, bytes tx.sender.bytes, bytes recipient.bytes, number tx.value.toNat,
    number tx.gas.toNat, number tx.gasPrice.toNat, bytes tx.input, number tx.nonce.toNat]

/-- The text of the block. -/
def blockText : List Char :=
  object [("hash", bytes header.hash.bytes), ("parentHash", bytes header.parentHash.bytes),
    ("sha3Uncles", bytes header.unclesHash.bytes), ("miner", bytes header.miner.bytes),
    ("stateRoot", bytes header.stateRoot.bytes),
    ("transactionsRoot", bytes header.transactionsRoot.bytes),
    ("receiptsRoot", bytes header.receiptsRoot.bytes),
    ("logsBloom", bytes header.logsBloom.bytes), ("difficulty", number 1), ("number", number 900),
    ("gasLimit", number 120), ("gasUsed", number 61), ("timestamp", number 1000),
    ("extraData", bytes header.extraData),
    ("transactions", array [transactionText transaction, transactionText later])]

/-- The text of the first receipt: 21 units of gas were used, at a price of two. -/
def receiptText : List Char :=
  object [("status", number 1), ("gasUsed", number 21), ("effectiveGasPrice", number 2)]

/-- The text of the second receipt: 40 units of gas were used, at the price that was offered. -/
def laterReceiptText : List Char := object [("status", number 1), ("gasUsed", number 40)]

/-- The text of a frame with the frames it called. -/
def frameText (kind : String) (sender recipient : Address) (value : Nat)
    (calls : List (List Char)) : List Char :=
  object [("type", quoted kind), ("from", address sender),
    ("to", address recipient), ("value", number value), ("calls", array calls)]

/-- The text of the first trace: one call. -/
def traceText : List Char := frameText "CALL" transaction.sender recipient 5 []

/-- The text of the second trace: within the call the recipient destroys itself, and is paid four
units afterwards. -/
def laterTraceText : List Char :=
  frameText "CALL" later.sender recipient 5
    [frameText "SELFDESTRUCT" recipient heir 2 [],
      frameText "CALL" later.sender recipient 4 []]

/-- The text of the rewards: one signer, and two holders that stand behind it. -/
def rewardText : List Char :=
  object [("rewards", object [("0x00000000000000000000000000000000000000aa",
    object [("0x00000000000000000000000000000000000000b1", number 7),
      ("0x00000000000000000000000000000000000000b2", number 5)])])]

/-- A call is about the second transaction. -/
def asksLater (call : Call) : Bool :=
  match call.params with
  | .string hash :: _ => hash = later.hash.toHex
  | _ => false

/-- What the node answers to a call: every account has a balance of a hundred units. -/
def answer (call : Call) : Reply :=
  match call.method with
  | .blockByNumber => .ok (String.ofList blockText)
  | .transactionReceipt =>
    .ok (String.ofList (if asksLater call then laterReceiptText else receiptText))
  | .traceTransaction => .ok (String.ofList (if asksLater call then laterTraceText else traceText))
  | .rewardByHash => .ok (String.ofList rewardText)
  | .balance => .ok (String.ofList (number 100))
  | .pendingTransactions => .ok (String.ofList (array [transactionText transaction]))
  | method => .error (.notFound method.name)

/-- The node. -/
def node : Node where
  reply := answer
  batchReply calls := .ok (calls.map answer)

theorem asksLater_eq (method : Method) (params : List Json) :
    asksLater ⟨method, .octets transaction.hash :: params⟩ = false ∧
      asksLater ⟨method, .octets later.hash :: params⟩ = true := by
  have hne : transaction.hash.toHex ≠ later.hash.toHex := fun heq => by
    have hread := congrArg (Hex.decodeOctets 32) heq
    rw [Hex.decodeOctets_toHex, Hex.decodeOctets_toHex, Except.ok.injEq] at hread
    exact absurd hread (by decide)
  exact ⟨decide_eq_false hne, decide_eq_true (rfl : later.hash.toHex = later.hash.toHex)⟩

theorem answer_transactionReceipt (params : List Json) :
    answer ⟨.transactionReceipt, .octets transaction.hash :: params⟩
        = .ok (String.ofList receiptText) ∧
      answer ⟨.transactionReceipt, .octets later.hash :: params⟩
        = .ok (String.ofList laterReceiptText) := by
  obtain ⟨hfirst, hlater⟩ := asksLater_eq .transactionReceipt params
  simp only [answer, hfirst, hlater]
  exact ⟨rfl, rfl⟩

theorem answer_traceTransaction (params : List Json) :
    answer ⟨.traceTransaction, .octets transaction.hash :: params⟩
        = .ok (String.ofList traceText) ∧
      answer ⟨.traceTransaction, .octets later.hash :: params⟩
        = .ok (String.ofList laterTraceText) := by
  obtain ⟨hfirst, hlater⟩ := asksLater_eq .traceTransaction params
  simp only [answer, hfirst, hlater]
  exact ⟨rfl, rfl⟩

/-- The key that sealed the block. -/
def sealerKey : PublicKey where
  x := 0x6e976cabc3739bc8daf19e184e72ca9d04bbf29852e9ebb155223fb5af80bade
  y := 0x8927bf3708d51a689db38ae05233e7760f907487d460d8ee284396f0fe8b3fb9

/-! The transactions of the block. -/

/-- The only frame of the first trace. -/
def frames : List FlatFrame := [⟨"CALL", transaction.sender, some recipient, 5, 0, false, none⟩]

/-- The frames of the second trace. -/
def laterFrames : List FlatFrame :=
  [⟨"CALL", later.sender, some recipient, 5, 0, false, none⟩,
    ⟨"SELFDESTRUCT", recipient, some heir, 2, 0, false, none⟩,
    ⟨"CALL", later.sender, some recipient, 4, 0, false, none⟩]

/-- What the readers make of the traces; with the receipts, they are read as JSON as well. -/
theorem finish_traces :
    ((CallFrame.reader.finish (Document.ofChars traceText)).toOption.map CallFrame.flatten
        = some frames ∧
      (Reader.finish Reader.json (Document.ofChars receiptText)).toOption.isSome ∧
      (Reader.finish Reader.json (Document.ofChars traceText)).toOption.isSome) ∧
    (CallFrame.reader.finish (Document.ofChars laterTraceText)).toOption.map CallFrame.flatten
        = some laterFrames ∧
      (Reader.finish Reader.json (Document.ofChars laterReceiptText)).toOption.isSome ∧
      (Reader.finish Reader.json (Document.ofChars laterTraceText)).toOption.isSome := by
  decide +kernel

/-- The operations of the first trace. -/
def operations : List Operation := Leg.number 2 (frames.flatMap FlatFrame.legs)

/-- The operations of the second trace; four units are lost with the recipient. -/
def laterOperations : List Operation :=
  Leg.number 2 (laterFrames.flatMap FlatFrame.legs ++ [Destroyed.leg recipient 4])

theorem operationsOfFrames_frames : operationsOfFrames 2 frames = .ok operations :=
  operationsOfFrames_eq_ok.mpr ⟨by decide, [], by decide, rfl⟩

theorem operationsOfFrames_laterFrames :
    operationsOfFrames 2 laterFrames = .ok laterOperations :=
  operationsOfFrames_eq_ok.mpr ⟨by decide, [(recipient, 4)], by decide +kernel, rfl⟩

/-- A transaction of the block as it was executed. -/
def executed (tx : LedgerTransaction) (fee : Uint256) (receipt trace : List Char) : Executed where
  transaction := tx
  sender := tx.sender
  miner := sealerKey.address
  fee := fee
  receipt := String.ofList receipt
  trace := String.ofList trace

theorem exists_shown {tx : LedgerTransaction} {fee : Uint256} {receipt trace : List Char}
    {calls : List FlatFrame} {ops : List Operation}
    (hcalls : (CallFrame.reader.finish (Document.ofChars trace)).toOption.map CallFrame.flatten
      = some calls)
    (hjson : (Reader.finish Reader.json (Document.ofChars receipt)).toOption.isSome ∧
      (Reader.finish Reader.json (Document.ofChars trace)).toOption.isSome)
    (hops : operationsOfFrames 2 calls = .ok ops) (hfee : fee.toNat < 2 ^ 255) :
    ∃ shown, (executed tx fee receipt trace).toRosetta = .ok shown ∧
      shown.operations = (executed tx fee receipt trace).feePair ++ ops ∧
      ∀ op ∈ shown.operations, op.Readable := by
  have hreceipt : (executed tx fee receipt trace).receipt = String.ofList receipt := rfl
  have htrace : (executed tx fee receipt trace).trace = String.ofList trace := rfl
  obtain ⟨shown, -, hshown, hoperations, -⟩ :=
    Executed.exists_toRosetta_ofList hreceipt htrace hcalls hjson hops
  have hrest := isSome_change?_of_operationsOfFrames hops
  refine ⟨shown, hshown, hoperations, ?_⟩
  rw [hoperations]
  exact List.forall_mem_append.mpr ⟨Executed.readable_of_mem_feePair hfee,
    fun op hop => .inr (.inr (hrest op hop))⟩

/-- The rewards as they are read. -/
def rewards : Rewards := [(.ofNat 20 0xaa, [(.ofNat 20 0xb1, 7), (.ofNat 20 0xb2, 5)])]

/-- The report of the rewards. -/
def report : Rewards.Report :=
  [("0x00000000000000000000000000000000000000aa",
    [("0x00000000000000000000000000000000000000b1", "7"),
      ("0x00000000000000000000000000000000000000b2", "5")])]

theorem read_rewardText : Rewards.read (String.ofList rewardText) = .ok (some rewards) := by
  have hreport : Rewards.readReport (String.ofList rewardText) = .ok (some report) := by
    rw [Rewards.readReport, Reader.runTo_ofList (a := some report) (by decide +kernel)]
  have hsigners : Rewards.addSigners report [] = .ok rewards :=
    Except.toOption_eq_some.mp (by decide +kernel)
  rw [Rewards.read, hreport]
  exact Except.bind_eq_ok.mpr ⟨some report, rfl, Except.bind_eq_ok.mpr ⟨rewards, hsigners, rfl⟩⟩

theorem readable_rewards :
    ∀ op ∈ (rewards.transaction header.hash).operations, op.Readable :=
  List.forall_mem_cons.mpr ⟨(Operation.readable_credit_iff rfl rfl rfl).mpr (by decide),
    List.forall_mem_singleton.mpr ((Operation.readable_credit_iff rfl rfl rfl).mpr (by decide))⟩

/-! The texts of the block. -/

/-- The receipts as they are read. -/
def receipt : Receipt := ⟨some 1, 21, some 2⟩

/-- The same of the second transaction. -/
def laterReceipt : Receipt := ⟨some 1, 40, none⟩

/-- What the readers make of the texts of the node; the block is read twice, for its header and for
its body. -/
theorem finish_texts :
    (Header.reader.finish (Document.ofChars blockText)).toOption = some header ∧
    (BlockBody.reader.finish (Document.ofChars blockText)).toOption = some body ∧
    (Receipt.reader.finish (Document.ofChars receiptText)).toOption = some receipt ∧
    (Receipt.reader.finish (Document.ofChars laterReceiptText)).toOption = some laterReceipt ∧
    (Reader.uint256.finish (Document.ofChars (number 100))).toOption = some 100 ∧
    ((Reader.list LedgerTransaction.reader).finish
      (Document.ofChars (array [transactionText transaction]))).toOption = some [transaction] := by
  decide +kernel

theorem decode_header (what : String) :
    Header.reader.decode what (String.ofList blockText) = .ok header :=
  Reader.decode_ofList finish_texts.1 what

theorem decode_body (what : String) :
    BlockBody.reader.decode what (String.ofList blockText) = .ok body :=
  Reader.decode_ofList finish_texts.2.1 what

theorem decode_receipt (what : String) :
    Receipt.reader.decode what (String.ofList receiptText) = .ok receipt :=
  Reader.decode_ofList finish_texts.2.2.1 what

theorem decode_laterReceipt (what : String) :
    Receipt.reader.decode what (String.ofList laterReceiptText) = .ok laterReceipt :=
  Reader.decode_ofList finish_texts.2.2.2.1 what

theorem decode_balance (what : String) :
    Reader.uint256.decode what (String.ofList (number 100)) = .ok 100 :=
  Reader.decode_ofList finish_texts.2.2.2.2.1 what

theorem signerKey_header :
    Signature.signerKey (keccak256 (Rlp.encodeRow Header.sealKinds (header.sealRow [])))
      header.extraData = .ok sealerKey := by
  rw [Keccak.keccak256_eq]
  decide +kernel

theorem sealer_header : header.sealer = .ok sealerKey.address := by
  have hsplit : header.splitSeal = .ok ([], header.extraData) := rfl
  rw [Header.sealer, Header.sealDigest, Header.sealBytes, hsplit]
  exact Except.map_eq_ok.mpr ⟨sealerKey, signerKey_header, rfl⟩

/-! The block. -/

/-- The types of the operations of the block, one transaction after another. -/
def kinds : List (List String) :=
  [["REWARD", "REWARD"], ["FEE", "FEE", "CALL", "CALL"],
    ["FEE", "FEE", "CALL", "CALL", "SELFDESTRUCT", "SELFDESTRUCT", "CALL", "CALL", "DESTRUCT"]]

theorem exists_plain :
    ∃ first second : Transaction,
      transactionsToRosetta sealerKey.address body.transactions
        [String.ofList receiptText, String.ofList laterReceiptText]
        [String.ofList traceText, String.ofList laterTraceText] = .ok [first, second] ∧
      [rewards.transaction header.hash, first, second].map Transaction.kinds = kinds ∧
      ∀ op ∈ [rewards.transaction header.hash, first, second].flatMap Transaction.operations,
        op.Readable := by
  obtain ⟨⟨hcalls, hjson⟩, hcalls', hjson'⟩ := finish_traces
  obtain ⟨first, hfirst, hops, hreadable⟩ : ∃ shown : Transaction,
      (executed transaction 42 receiptText traceText).toRosetta = .ok shown ∧
      shown.operations = (executed transaction 42 receiptText traceText).feePair ++ operations ∧
      ∀ op ∈ shown.operations, op.Readable :=
    exists_shown hcalls hjson operationsOfFrames_frames (by decide)
  obtain ⟨second, hsecond, hops', hreadable'⟩ : ∃ shown : Transaction,
      (executed later 160 laterReceiptText laterTraceText).toRosetta = .ok shown ∧
      shown.operations =
        (executed later 160 laterReceiptText laterTraceText).feePair ++ laterOperations ∧
      ∀ op ∈ shown.operations, op.Readable :=
    exists_shown hcalls' hjson' operationsOfFrames_laterFrames (by decide)
  have hfee : receipt.gasUsed.saturatingMul (transaction.paidPrice receipt) = 42 := by decide
  have hfee' : laterReceipt.gasUsed.saturatingMul (later.paidPrice laterReceipt) = 160 := by decide
  have hfirst : transaction.toRosetta sealerKey.address (String.ofList receiptText)
      (String.ofList traceText) = .ok first :=
    LedgerTransaction.toRosetta_eq_ok.mpr ⟨_, decode_receipt _, by rw [hfee]; exact hfirst⟩
  have hsecond : later.toRosetta sealerKey.address (String.ofList laterReceiptText)
      (String.ofList laterTraceText) = .ok second :=
    LedgerTransaction.toRosetta_eq_ok.mpr ⟨_, decode_laterReceipt _, by rw [hfee']; exact hsecond⟩
  refine ⟨first, second, ?_, ?_, ?_⟩
  · rw [body, transactionsToRosetta, hfirst]
    simp only [transactionsToRosetta, hsecond]
    rfl
  · simp only [List.map_cons, List.map_nil, Transaction.kinds, hops, hops']
    rfl
  · simp only [List.flatMap_cons, List.flatMap_nil, List.append_nil, List.forall_mem_append]
    exact ⟨readable_rewards, hreadable, hreadable'⟩

theorem exists_answers_traces {settings : TraceSettings} (h : settings.byBlock = false) :
    ∃ asked, Query.Answers node (Query.traces settings header.hash body.transactions)
      [String.ofList traceText, String.ofList laterTraceText] asked := by
  have hsome : body.transactions ≠ [] := List.cons_ne_nil _ _
  have hfirst : node.reply ⟨.traceTransaction, [.octets transaction.hash, settings.tracerParam]⟩
      = .ok (String.ofList traceText) := (answer_traceTransaction _).1
  have hsecond : node.reply ⟨.traceTransaction, [.octets later.hash, settings.tracerParam]⟩
      = .ok (String.ofList laterTraceText) := (answer_traceTransaction _).2
  rw [Query.traces, if_neg hsome, h]
  exact ⟨_, Query.answers_bind.mpr ⟨_, _, _, Query.answers_call.mpr ⟨hfirst, rfl⟩,
    Query.answers_bind.mpr ⟨[String.ofList laterTraceText], _, _,
      Query.answers_bind.mpr ⟨_, _, _, Query.answers_call.mpr ⟨hsecond, rfl⟩,
        Query.answers_bind.mpr ⟨[], [], _, Query.answers_pure.mpr ⟨rfl, rfl⟩,
          Query.answers_pure.mpr ⟨rfl, rfl⟩, rfl⟩, rfl⟩,
      Query.answers_pure.mpr ⟨rfl, rfl⟩, rfl⟩, rfl⟩⟩

/-- The block, as it is shown. -/
def shown (txs : List Transaction) : Block where
  identifier := header.identifier
  parent := header.parentIdentifier
  timestamp := timestampMillis header.timestamp
  transactions := txs
  metadata := some (Block.unclesMetadata [])

theorem index_shown (txs : List Transaction) : (shown txs).identifier.index = signed64 900 := by
  simp only [shown, Header.identifier, header]

/-! The same block at any node that answers batches alike. -/

section OtherNode

variable {other : Node}

theorem exists_answers_openingTransactions
    (hreward : other.reply ⟨.rewardByHash, [.octets header.hash]⟩
      = .ok (String.ofList rewardText)) :
    ∃ asked, Query.Answers other (Query.openingTransactions header)
      [rewards.transaction header.hash] asked := by
  have hcheckpoint : isCheckpoint header.number = true := by decide
  have hsplit : Query.Answers other (Query.reward header.hash)
      (some (rewards.transaction header.hash)) [.call ⟨.rewardByHash, [.octets header.hash]⟩] :=
    Query.answers_reward.mpr ⟨.inr ⟨_, _, hreward, read_rewardText, rfl⟩, rfl⟩
  refine ⟨[.call ⟨.rewardByHash, [.octets header.hash]⟩],
    Query.answers_openingTransactions.mpr ?_⟩
  rw [if_pos hcheckpoint]
  exact ⟨_, hsplit, rfl⟩

theorem answers_block
    (hblock : other.reply ⟨.blockByNumber, [BlockReference.latest.tag, .bool true]⟩
      = .ok (String.ofList blockText)) :
    ∃ asked, Query.Answers other (Query.block .latest) (header, body) asked := by
  have hcheck : body.checkAgainst header = .ok () := by
    simp only [BlockBody.checkAgainst]
    decide
  exact ⟨_, Query.answers_block.mpr ⟨String.ofList blockText, hblock, decode_header _,
    decode_body _, hcheck, rfl⟩⟩

variable (hother : other.batchReply = node.batchReply)

include hother

theorem exists_answers_batch (tag : Json) (accounts : List String) :
    ∃ asked, Query.Answers other (Query.batch (accounts.map (balanceCall tag)))
      (accounts.map fun _ => .ok (String.ofList (number 100))) asked := by
  cases accounts with
  | nil => exact ⟨[], Query.answers_batch.mpr (.inl ⟨rfl, rfl, rfl⟩)⟩
  | cons account accounts =>
    refine ⟨_, Query.answers_batch.mpr (.inr ⟨List.cons_ne_nil _ _, ?_, rfl⟩)⟩
    simp only [hother, node, List.map_map]
    rfl

theorem exists_running (txs : List Transaction) (tag : Json)
    (hreadable : ∀ op ∈ txs.flatMap Transaction.operations, op.Readable) :
    ∃ opening asked, Query.Answers other (withRunningBalances txs tag)
      (Balances.runningTransactions opening [] txs) asked := by
  have hreply : Balances.ofReply (.ok (String.ofList (number 100))) = .ok (Int256.wrap 100) :=
    Balances.ofReply_eq_ok.mpr ⟨_, 100, rfl, decode_balance _, by decide⟩
  obtain ⟨asked, hbatch⟩ := exists_answers_batch hother tag (namedAccounts txs)
  exact ⟨_, asked, Query.answers_withRunningBalances.mpr
    ⟨_, _, hbatch, Balances.ofReplies_map hreply (namedAccounts txs), hreadable, rfl⟩⟩

theorem batchReply_receipts :
    other.batchReply (body.transactions.map fun tx =>
      ⟨.transactionReceipt, [.octets tx.hash]⟩) =
        .ok [.ok (String.ofList receiptText), .ok (String.ofList laterReceiptText)] := by
  obtain ⟨hfirst, hsecond⟩ := answer_transactionReceipt []
  simp only [hother, node, body, List.map_cons, List.map_nil, hfirst, hsecond]

theorem exists_answers_receipts :
    ∃ asked, Query.Answers other (Query.receipts body.transactions)
      [String.ofList receiptText, String.ofList laterReceiptText] asked :=
  ⟨_, Query.answers_receipts.mpr ⟨_, Query.answers_batch.mpr
    (.inr ⟨List.cons_ne_nil _ _, batchReply_receipts hother, rfl⟩), rfl⟩⟩

/-- Where the block, its rewards and its traces are told, the block is served: the rewards, a
transfer, and a transfer after which the recipient is destroyed and paid again. -/
theorem exists_answers_assemble_of {settings : TraceSettings}
    (hblock : other.reply ⟨.blockByNumber, [BlockReference.latest.tag, .bool true]⟩
      = .ok (String.ofList blockText))
    (hreward : other.reply ⟨.rewardByHash, [.octets header.hash]⟩
      = .ok (String.ofList rewardText))
    (htraces : ∃ asked, Query.Answers other
      (Query.traces settings header.hash body.transactions)
        [String.ofList traceText, String.ofList laterTraceText] asked) :
    ∃ txs asked, Query.Answers other (Query.assemble settings .latest) (shown txs) asked ∧
      txs.map Transaction.kinds = kinds := by
  obtain ⟨first, second, hplain, hkinds, hreadable⟩ := exists_plain
  obtain ⟨opening, asked₅, hrunning⟩ := exists_running hother
    [rewards.transaction header.hash, first, second]
    (BlockReference.number (header.number - 1)).tag hreadable
  obtain ⟨asked₁, hblock⟩ := answers_block hblock
  obtain ⟨asked₂, hreceipts⟩ := exists_answers_receipts hother
  obtain ⟨asked₃, htraces⟩ := htraces
  obtain ⟨asked₄, hopening⟩ := exists_answers_openingTransactions hreward
  have htxs := Query.answers_transactions.mpr ⟨_, _, _, _, [first, second], _, _, _, _,
    sealer_header, hreceipts, htraces, hopening, hplain, hrunning, rfl⟩
  have huncles : Query.Answers other (Query.uncles header body) [] [] :=
    Query.answers_readAll.mpr ⟨[], Query.answers_batch.mpr (.inl ⟨rfl, rfl, rfl⟩), rfl⟩
  have hlater : (900 : UInt64) ≠ 0 := by decide
  exact ⟨_, _, (Query.answers_assemble hlater (index_shown _)).mpr
    ⟨header, body, [], _, _, _, rfl, hblock, huncles, htxs, rfl, rfl⟩,
    (Balances.map_kinds_runningTransactions opening [] _).trans hkinds⟩

end OtherNode

theorem exists_answers_assemble (settings : TraceSettings) (h : settings.byBlock = false) :
    ∃ txs asked, Query.Answers node (Query.assemble settings .latest) (shown txs) asked ∧
      txs.map Transaction.kinds = kinds :=
  exists_answers_assemble_of rfl rfl rfl (exists_answers_traces h)

end OneBlock

end PosvGateway
