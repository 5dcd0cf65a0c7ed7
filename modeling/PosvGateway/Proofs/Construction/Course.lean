import PosvGateway.Proofs.Json
import PosvGateway.Proofs.Json.Number
import PosvGateway.Proofs.Query.Answers
import PosvGateway.Proofs.Construction.Description
import PosvGateway.Proofs.Construction.Options

/-!
# The course of a construction

From the operations of a client to the description of its transaction, the accounts and the numbers
pass through texts of several kinds. Every step reads back what the one before it has written.

* `Step.Answers` : a step that asks the node ends in an answer;
* `preprocess_eq_ok`, `answers_metadata_iff`, `unsigned_metadataOf` : what each step reads and
  writes;
* `Sets` : what a member of the client sets a number to;
* `Intends`, `intends_transactionOf` : the transaction that operations, overrides and the node's
  replies ask for;
* `parse_payloads_metadata` : **it is the one that is built**, and the one that is described.
-/

namespace PosvGateway.Construction

/-! ### Steps that ask the node -/

namespace Step

variable {α β : Type} {node : Node} {a : α} {b : β} {asked : List Asked}

/-- With this node, the step ends in an answer after something was asked. -/
def Answers (node : Node) (step : Step α) (a : α) (asked : List Asked) : Prop :=
  step.run.run node = (.ok a, asked)

theorem answers_bind {step : Step α} {f : α → Step β} :
    Answers node (step >>= f) b asked ↔
      ∃ a first rest, Answers node step a first ∧ Answers node (f a) b rest ∧
        asked = first ++ rest := Dialogue.run_bind_eq_ok

theorem answers_ofExcept {answer : Except ConstructionError α} :
    Answers node (ExceptT.mk (.done answer)) a asked ↔ answer = .ok a ∧ asked = [] :=
  Prod.ext_iff.trans (and_congr_right fun _ => eq_comm)

/-- A step that starts with what is known already. -/
theorem answers_liftM_bind {answer : Except ConstructionError α} {f : α → Step β} :
    Answers node (liftM answer >>= f) b asked ↔
      ∃ a, answer = .ok a ∧ Answers node (f a) b asked := by
  have hlift : (liftM answer : Step α) = ExceptT.mk (.done answer) := rfl
  simp only [answers_bind, hlift, answers_ofExcept]
  constructor
  · rintro ⟨a, -, rest, ⟨hanswer, rfl⟩, hf, rfl⟩
    exact ⟨a, hanswer, hf⟩
  · rintro ⟨a, hanswer, hf⟩
    exact ⟨a, [], asked, ⟨hanswer, rfl⟩, hf, rfl⟩

/-- A query within a step is answered as it is by itself. -/
theorem answers_query {wrap : QueryError → ConstructionError} {query : Query α} :
    Answers node (Step.query wrap query) a asked ↔ Query.Answers node query a asked := by
  have hrun : (Step.query wrap query).run.run node =
      (Except.mapError wrap (query.run.run node).1, (query.run.run node).2 ++ []) :=
    Dialogue.run_bind node query.run fun answer => .done (Except.mapError wrap answer)
  rw [Answers, hrun, List.append_nil, Query.Answers, Prod.ext_iff, Prod.ext_iff,
    Except.mapError_eq_ok]

end Step

/-! ### What each step reads and writes -/

theorem readQuantity_eq_ok {what text : String} {n : UInt64} :
    readQuantity what text = .ok n ↔ Quantity.read text = .ok n := by
  rw [readQuantity]
  cases Quantity.read text <;> simp

theorem readAmount_eq_ok {what text : String} {v : Uint256} :
    readAmount what text = .ok v ↔ Numeral.readUint256 text = .ok v := by
  rw [readAmount]
  cases Numeral.readUint256 text <;> simp

/-- The options that a transfer and the client's own numbers make. -/
def optionsOf (transfer : Transfer) (price limit : Option String) : Options where
  sender := transfer.sender.checksum
  recipient := transfer.recipient.checksum
  amount := Numeral.decimal transfer.value.toNat
  symbol := Currency.native.symbol
  decimals := Currency.native.decimals
  gasPrice := price
  gasLimit := limit

theorem preprocess_eq_ok {operations : List Operation} {overrides : Option Json.Members}
    {options : Options} :
    preprocess operations overrides = .ok options ↔
      ∃ transfer price limit, Transfer.ofOperations operations = .ok transfer ∧
        override overrides "gas_price" = .ok price ∧
        override overrides "gas_limit" = .ok limit ∧
        (∀ text, price = some text → ∃ v, Numeral.readUint256 text = .ok v) ∧
        (∀ text, limit = some text → ∃ n, Quantity.read text = .ok n) ∧
        options = optionsOf transfer price limit := by
  simp only [preprocess, Except.bind_eq_ok]
  constructor
  · rintro ⟨transfer, htransfer, price, hprice, limit, hlimit, v, hv, n, hn, h⟩
    have hv := Except.exists_mapM_eq_ok.mp ⟨v, hv⟩
    have hn := Except.exists_mapM_eq_ok.mp ⟨n, hn⟩
    simp only [readAmount_eq_ok] at hv
    simp only [readQuantity_eq_ok] at hn
    exact ⟨transfer, price, limit, htransfer, hprice, hlimit, hv, hn, (Except.ok.inj h).symm⟩
  · rintro ⟨transfer, price, limit, htransfer, hprice, hlimit, hv, hn, rfl⟩
    simp only [← @readAmount_eq_ok "gas_price"] at hv
    simp only [← @readQuantity_eq_ok "gas_limit"] at hn
    obtain ⟨v, hv⟩ := Except.exists_mapM_eq_ok.mpr hv
    obtain ⟨n, hn⟩ := Except.exists_mapM_eq_ok.mpr hn
    exact ⟨transfer, htransfer, price, hprice, limit, hlimit, v, hv, n, hn, rfl⟩

theorem answers_gasPrice {node : Node} {options : Options} {price : Uint256}
    {asked : List Asked} :
    Step.Answers node (gasPrice options) price asked ↔
      match options.gasPrice with
      | some text => Numeral.readUint256 text = .ok price ∧ asked = []
      | none => Query.Answers node Query.gasPrice price asked := by
  rw [gasPrice]
  cases options.gasPrice with
  | none => exact Step.answers_query
  | some text => simp only [Step.answers_ofExcept, readAmount_eq_ok]

/-- The price that a step takes is the client's own, and the node's where the client has none. -/
theorem exists_answers_gasPrice {node : Node} {options : Options} {price : Uint256}
    {asked : List Asked} (h : Step.Answers node (gasPrice options) price asked) :
    match options.gasPrice with
    | some text => Numeral.readUint256 text = .ok price
    | none => ∃ asked, Query.Answers node Query.gasPrice price asked := by
  have hprice := answers_gasPrice.mp h
  cases hown : options.gasPrice with
  | none =>
    rw [hown] at hprice
    exact ⟨asked, hprice⟩
  | some text =>
    rw [hown] at hprice
    exact hprice.1

theorem gasLimit_eq_ok {options : Options} {limit : UInt64} :
    gasLimit options = .ok limit ↔
      match options.gasLimit with
      | some text => Quantity.read text = .ok limit
      | none => limit = transferGas := by
  rw [gasLimit]
  cases options.gasLimit with
  | none => simp [eq_comm]
  | some text => simp only [readQuantity_eq_ok]

/-- The metadata of a number, a price and a limit. -/
def metadataOf (nonce : UInt64) (price : Uint256) (limit : UInt64) : Metadata where
  nonce := Quantity.write nonce
  gasPrice := Numeral.hex price.toNat
  gasLimit := Quantity.write limit

/-- The metadata of some options are the numbers that the node or the client tell, and the fee is
the price of the gas that the node estimates for their transfer. -/
theorem answers_metadata_iff {node : Node} {options : Options} {m : Metadata} {fee : Amount}
    {asked : List Asked} :
    Step.Answers node (metadata options) (m, fee) asked ↔
      ∃ sender, Address.read options.sender = .ok sender ∧
      ∃ recipient, Address.read options.recipient = .ok recipient ∧
      ∃ amount, Numeral.readUint256 options.amount = .ok amount ∧
      ∃ nonce price limit estimate first second third,
        Query.Answers node (Query.pendingNonce sender) nonce first ∧
        Step.Answers node (gasPrice options) price second ∧ gasLimit options = .ok limit ∧
        Query.Answers node (Query.estimateGas
          { sender, recipient := some recipient, value := some amount }) estimate third ∧
        m = metadataOf nonce price limit ∧
        fee = .credit (.ofNat 256 estimate.toNat * price) ∧
        asked = first ++ (second ++ third) := by
  simp only [metadata, Step.answers_liftM_bind, Transfer.readAddress_eq_ok, readAmount_eq_ok]
  refine exists_congr fun sender => and_congr_right fun _ => exists_congr fun recipient =>
    and_congr_right fun _ => exists_congr fun amount => and_congr_right fun _ => ?_
  -- What was asked is put together from the three questions in their order.
  constructor
  · intro h
    obtain ⟨nonce, first, _, hnonce, h₁, rfl⟩ := Step.answers_bind.mp h
    obtain ⟨price, second, _, hprice, h₂, rfl⟩ := Step.answers_bind.mp h₁
    obtain ⟨limit, hlimit, h₃⟩ := Step.answers_liftM_bind.mp h₂
    obtain ⟨estimate, third, _, hestimate, h₄, rfl⟩ := Step.answers_bind.mp h₃
    cases h₄
    exact ⟨nonce, price, limit, estimate, first, second, third, Step.answers_query.mp hnonce,
      hprice, hlimit, Step.answers_query.mp hestimate, rfl, rfl, by rw [List.append_nil]⟩
  · rintro ⟨nonce, price, limit, estimate, first, second, third, hnonce, hprice, hlimit, hestimate,
      rfl, rfl, rfl⟩
    have hfee : Step.Answers node
        (Step.query .estimationFailed (Query.estimateGas
            { sender, recipient := some recipient, value := some amount }) >>= fun estimate =>
          pure (metadataOf nonce price limit, Amount.credit (.ofNat 256 estimate.toNat * price)))
        (metadataOf nonce price limit, Amount.credit (.ofNat 256 estimate.toNat * price)) third :=
      Step.answers_bind.mpr
        ⟨estimate, third, [], Step.answers_query.mpr hestimate, rfl, (List.append_nil _).symm⟩
    exact Step.answers_bind.mpr ⟨nonce, first, _, Step.answers_query.mpr hnonce,
      Step.answers_bind.mpr ⟨price, second, third, hprice,
        Step.answers_liftM_bind.mpr ⟨limit, hlimit, hfee⟩, rfl⟩, rfl⟩

/-- The metadata of the options that were written for a transfer. -/
theorem answers_metadata {node : Node} {transfer : Transfer} {price? limit? : Option String}
    {m : Metadata} {fee : Amount} {asked : List Asked} :
    Step.Answers node (metadata (optionsOf transfer price? limit?)) (m, fee) asked ↔
      ∃ nonce price limit estimate first second third,
        Query.Answers node (Query.pendingNonce transfer.sender) nonce first ∧
        Step.Answers node (gasPrice (optionsOf transfer price? limit?)) price second ∧
        gasLimit (optionsOf transfer price? limit?) = .ok limit ∧
        Query.Answers node (Query.estimateGas
          { sender := transfer.sender, recipient := some transfer.recipient,
            value := some transfer.value }) estimate third ∧
        m = metadataOf nonce price limit ∧
        fee = .credit (.ofNat 256 estimate.toNat * price) ∧
        asked = first ++ (second ++ third) := by
  have hsender : Address.read (optionsOf transfer price? limit?).sender = .ok transfer.sender :=
    Address.read_checksum _
  have hrecipient : Address.read (optionsOf transfer price? limit?).recipient =
      .ok transfer.recipient := Address.read_checksum _
  have hamount : Numeral.readUint256 (optionsOf transfer price? limit?).amount =
      .ok transfer.value := Numeral.readUint256_decimal _
  simp only [answers_metadata_iff, hsender, hrecipient, hamount, Except.ok.injEq, exists_eq_left']

/-- The transaction of a transfer with a number, a price and a limit on a chain. -/
def transactionOf (transfer : Transfer) (nonce : UInt64) (price : Uint256) (limit chain : UInt64) :
    UnsignedTransaction where
  sender := transfer.sender
  recipient := transfer.recipient
  value := transfer.value
  input := []
  nonce := nonce
  gasPrice := price
  gasLimit := limit
  chainId := chain

/-- The numbers in metadata are read back when the transaction is built. -/
theorem unsigned_metadataOf {operations : List Operation} {transfer : Transfer} {nonce : UInt64}
    {price : Uint256} {limit chain : UInt64}
    (h : Transfer.ofOperations operations = .ok transfer) :
    unsigned operations (metadataOf nonce price limit) chain =
      .ok (transactionOf transfer nonce price limit chain) := by
  have hnonce : readQuantity "nonce" (metadataOf nonce price limit).nonce = .ok nonce :=
    readQuantity_eq_ok.mpr (Quantity.read_write nonce)
  have hprice : readAmount "gas_price" (metadataOf nonce price limit).gasPrice = .ok price :=
    readAmount_eq_ok.mpr (Numeral.readUint256_hex price)
  have hlimit : readQuantity "gas_limit" (metadataOf nonce price limit).gasLimit = .ok limit :=
    readQuantity_eq_ok.mpr (Quantity.read_write limit)
  simp only [unsigned, Except.bind_eq_ok]
  exact ⟨transfer, h, nonce, hnonce, price, hprice, limit, hlimit, rfl⟩

/-! ### From operations to a description -/

/-- What the client's member of some name sets a number to: a text to the number it spells, and a
number to itself. Where the member is missing or null, the number is `otherwise`. -/
def Sets (overrides : Option Json.Members) (name : String) (n : Nat) (otherwise : Prop) : Prop :=
  match overrides.bind (·.find? name) with
  | none | some .null => otherwise
  | some (.string text) => n = Numeral.spelled text
  | some (.number number) => number = .integer n
  | some _ => False

/-- The transaction that operations, the client's own numbers and a node ask for, on a chain. -/
structure Intends (operations : List Operation) (overrides : Option Json.Members) (node : Node)
    (chain : UInt64) (e : UnsignedTransaction) : Prop where
  /-- The account of the debit pays the account of the credit what the credit says. -/
  movement : ∃ debit credit payer payee credited, operations = [debit, credit] ∧
    debit.account = some payer ∧ Address.read payer.address = .ok e.sender ∧
    credit.account = some payee ∧ Address.read payee.address = .ok e.recipient ∧
    credit.change? = some credited ∧ credited.toInt = e.value.toNat
  /-- It is a plain transfer. -/
  input : e.input = []
  /-- The node tells the number of the sender's next transaction. -/
  nonce : ∃ asked, Query.Answers node (Query.pendingNonce e.sender) e.nonce asked
  /-- The price of gas is the client's own, and the node's where the client has none. -/
  gasPrice : Sets overrides "gas_price" e.gasPrice.toNat
    (∃ asked, Query.Answers node Query.gasPrice e.gasPrice asked)
  /-- The limit of gas is the client's own, and that of a plain transfer where the client has
  none. -/
  gasLimit : Sets overrides "gas_limit" e.gasLimit.toNat (e.gasLimit = 21000)
  /-- The chain is the one that was asked for. -/
  chainId : e.chainId = chain

theorem Sets.unique {overrides : Option Json.Members} {name : String} {n n' : Nat}
    {otherwise otherwise' : Prop} (h : Sets overrides name n otherwise)
    (h' : Sets overrides name n' otherwise') (hotherwise : otherwise → otherwise' → n = n') :
    n = n' := by
  rw [Sets] at h h'
  generalize overrides.bind (·.find? name) = member at h h'
  split at h
  · exact hotherwise h h'
  · exact hotherwise h h'
  · exact h.trans h'.symm
  · exact Int.ofNat.inj (JsonNumber.integer.inj (h.symm.trans h'))
  · exact h.elim

/-- One transaction at most is intended. -/
theorem Intends.unique {operations : List Operation} {overrides : Option Json.Members}
    {node : Node} {chain : UInt64} {e e' : UnsignedTransaction}
    (h : Intends operations overrides node chain e)
    (h' : Intends operations overrides node chain e') : e = e' := by
  have hanswer : ∀ {α : Type} {query : Query α} {a a' : α},
      (∃ asked, Query.Answers node query a asked) → (∃ asked, Query.Answers node query a' asked) →
        a = a' := by
    rintro α query a a' ⟨asked, ha⟩ ⟨asked', ha'⟩
    exact Except.ok.inj (Prod.mk.inj (ha.symm.trans ha')).1
  obtain ⟨debit, credit, payer, payee, credited, rfl, hpayer, hsender, hpayee, hrecipient,
    hcredited, hvalue⟩ := h.movement
  obtain ⟨debit', credit', payer', payee', credited', heq, hpayer', hsender', hpayee', hrecipient',
    hcredited', hvalue'⟩ := h'.movement
  cases heq
  cases hpayer.symm.trans hpayer'
  cases hpayee.symm.trans hpayee'
  cases hcredited.symm.trans hcredited'
  have hpayer : e.sender = e'.sender := Except.ok.inj (hsender.symm.trans hsender')
  have hpayee : e.recipient = e'.recipient := Except.ok.inj (hrecipient.symm.trans hrecipient')
  have hworth : e.value = e'.value :=
    BitVec.eq_of_toNat_eq (Int.ofNat.inj (hvalue.symm.trans hvalue'))
  have hnonce : e.nonce = e'.nonce := hanswer h.nonce (hpayer ▸ h'.nonce)
  have hprice : e.gasPrice = e'.gasPrice :=
    BitVec.eq_of_toNat_eq (h.gasPrice.unique h'.gasPrice fun hnode hnode' =>
      congrArg BitVec.toNat (hanswer hnode hnode'))
  have hlimit : e.gasLimit = e'.gasLimit :=
    UInt64.toNat_inj.mp (h.gasLimit.unique h'.gasLimit fun hplain hplain' => by
      rw [hplain, hplain'])
  have hinput : e.input = e'.input := h.input.trans h'.input.symm
  have hchain : e.chainId = e'.chainId := h.chainId.trans h'.chainId.symm
  cases e
  cases e'
  exact UnsignedTransaction.mk.injEq .. ▸
    ⟨hpayer, hpayee, hworth, hinput, hnonce, hprice, hlimit, hchain⟩

/-- The text that was taken from a member of the client tells what the member sets. -/
theorem sets_of_override {overrides : Option Json.Members} {name : String} {own : Option String}
    {n : Nat} {otherwise : Prop} (h : override overrides name = .ok own)
    (hnone : own = none → otherwise) (htext : ∀ text, own = some text → n = Numeral.spelled text)
    (hnumber : ∀ number : JsonNumber, own = some number.render → number = .integer n) :
    Sets overrides name n otherwise := by
  rw [override] at h
  rw [Sets]
  generalize overrides.bind (·.find? name) = member at h ⊢
  split at h
  · cases h
    exact hnone rfl
  · cases h
    exact hnone rfl
  · cases h
    exact htext _ rfl
  · cases h
    exact hnumber _ rfl
  · cases h

/-- The transaction of what the steps have read is the one that was intended. -/
theorem intends_transactionOf {operations : List Operation} {overrides : Option Json.Members}
    {node : Node} {transfer : Transfer} {price? limit? : Option String} {nonce : UInt64}
    {price : Uint256} {limit : UInt64} {first second : List Asked}
    (htransfer : Transfer.ofOperations operations = .ok transfer)
    (hprice? : override overrides "gas_price" = .ok price?)
    (hlimit? : override overrides "gas_limit" = .ok limit?)
    (hnonce : Query.Answers node (Query.pendingNonce transfer.sender) nonce first)
    (hprice : Step.Answers node (gasPrice (optionsOf transfer price? limit?)) price second)
    (hlimit : gasLimit (optionsOf transfer price? limit?) = .ok limit) (chain : UInt64) :
    Intends operations overrides node chain (transactionOf transfer nonce price limit chain) where
  movement := by
    obtain ⟨debit, credit, -, credited, hoperations, -, -, -, hcredited, hpositive, -, hsender,
      hrecipient, hvalue⟩ := Transfer.ofOperations_eq_ok.mp htransfer
    obtain ⟨payer, hpayer, hsender⟩ := Transfer.account_eq_ok.mp hsender
    obtain ⟨payee, hpayee, hrecipient⟩ := Transfer.account_eq_ok.mp hrecipient
    have hworth : credited.toInt = transfer.value.toNat := by
      rw [hvalue, Int256.toNat_bits hpositive]
    exact ⟨debit, credit, payer, payee, credited, hoperations, hpayer, hsender, hpayee, hrecipient,
      hcredited, hworth⟩
  input := rfl
  nonce := ⟨first, hnonce⟩
  gasPrice := by
    have h := exists_answers_gasPrice hprice
    refine sets_of_override hprice? ?_ ?_ ?_
    · rintro rfl
      exact h
    · rintro text rfl
      exact Numeral.readUint256_value h
    · rintro number rfl
      exact Numeral.readUint256_render.mp h
  gasLimit := by
    have h := gasLimit_eq_ok.mp hlimit
    refine sets_of_override hlimit? ?_ ?_ ?_
    · rintro rfl
      exact h
    · rintro text rfl
      exact Quantity.read_spelled h
    · rintro number rfl
      exact Quantity.read_render.mp h
  chainId := rfl

/-- **What is intended is built, and described.** Where options are written and the node answers for
their metadata, both are read back from their objects, and the operations with the metadata make a
text. It spells the transaction that was intended. Its description has the transfer that was given,
and the numbers of that transaction. -/
theorem parse_payloads_metadata {operations : List Operation} {overrides : Option Json.Members}
    {options : Options} {node : Node} {m : Metadata} {fee : Amount} {asked : List Asked}
    (hoptions : preprocess operations overrides = .ok options)
    (hmetadata : Step.Answers node (metadata options) (m, fee) asked) (chain : UInt64) :
    Options.ofMembers options.toMembers = .ok options ∧
      Metadata.ofMembers m.toMembers = .ok m ∧
      ∃ text advertised e d transfer, payloads operations m chain = .ok (text, advertised) ∧
        readUnsigned "unsigned_transaction" text = .ok e ∧
        Intends operations overrides node chain e ∧
        parse text false chain = .ok d ∧
        Transfer.ofOperations operations = .ok transfer ∧
        Transfer.ofOperations d.operations = .ok transfer ∧
        d.metadata.find? "nonce" = some (.string (Numeral.hex e.nonce.toNat)) ∧
        d.metadata.find? "gas_price" = some (.string (Numeral.hex e.gasPrice.toNat)) ∧
        d.metadata.find? "gas_limit" = some (.string (Numeral.hex e.gasLimit.toNat)) ∧
        d.metadata.find? "chain_id" = some (.string (Numeral.hex chain.toNat)) := by
  obtain ⟨transfer, price?, limit?, htransfer, hprice?, hlimit?, -, -, rfl⟩ :=
    preprocess_eq_ok.mp hoptions
  obtain ⟨nonce, price, limit, estimate, first, second, third, hnonce, hprice, hlimit, -, rfl, -,
    -⟩ := answers_metadata.mp hmetadata
  have hunsigned : unsigned operations (metadataOf nonce price limit) chain =
      .ok (transactionOf transfer nonce price limit chain) := unsigned_metadataOf htransfer
  have hintends : Intends operations overrides node chain
      (transactionOf transfer nonce price limit chain) :=
    intends_transactionOf htransfer hprice? hlimit? hnonce hprice hlimit chain
  have hlength : (transactionOf transfer nonce price limit chain).input.length < 2 ^ 63 :=
    Nat.two_pow_pos 63
  have hdecimals : Currency.native.decimals < UInt32.size := by decide
  obtain ⟨hnonce', hprice', hlimit', hchain'⟩ :=
    find?_describeNumbers nonce price limit (some chain)
  exact ⟨Options.ofMembers_toMembers hdecimals, Metadata.ofMembers_toMembers _,
    Hex.encode (transactionOf transfer nonce price limit chain).encode, _, _, _, transfer,
    Except.bind_eq_ok.mpr ⟨_, hunsigned, rfl⟩, readUnsigned_encode hlength, hintends,
    parse_encode hlength, htransfer,
    Transfer.ofOperations_operations (Transfer.value_lt_bound htransfer), hnonce', hprice', hlimit',
    hchain'⟩

/-- A node that counts nine transactions of every account. -/
def quotingNode : Node where
  reply call :=
    match call.method with
    | .transactionCount => .ok (Numeral.decimal 9)
    | .gasPrice => .ok (Numeral.decimal 250000000)
    | .estimateGas => .ok (Numeral.decimal 21000)
    | _ => .error (.notFound call.method.name)
  batchReply _ := .ok []

/-- A client that sets the limit of gas by a text. -/
def generousOverrides : Option Json.Members := some [("gas_limit", .string "0x7530")]

/-- A client that sets the price of gas by a number, and no limit. -/
def hurriedOverrides : Option Json.Members :=
  some [("gas_limit", .null), ("gas_price", .nat 300000000)]

/-- What the operations of a hundred units are read as. -/
def hundredUnitsTransfer : Transfer where
  sender := .ofNat 20 0x7e5f4552091a69125d5dfcb7b8c2659029395bdf
  recipient := .ofNat 20 0x2222222222222222222222222222222222222222
  value := 100

theorem preprocess_generous :
    preprocess hundredUnits generousOverrides =
      .ok (optionsOf hundredUnitsTransfer none (some "0x7530")) := by
  refine preprocess_eq_ok.mpr ⟨hundredUnitsTransfer, none, some "0x7530", rfl, rfl, rfl, nofun,
    fun text htext => ?_, rfl⟩
  cases htext
  exact ⟨30000, by decide⟩

theorem preprocess_hurried :
    preprocess hundredUnits hurriedOverrides =
      .ok (optionsOf hundredUnitsTransfer (some (Numeral.decimal 300000000)) none) := by
  refine preprocess_eq_ok.mpr ⟨hundredUnitsTransfer, some (Numeral.decimal 300000000), none, rfl,
    rfl, rfl, fun text htext => ?_, nofun, rfl⟩
  cases htext
  exact ⟨300000000, Numeral.readUint256_decimal 300000000⟩

theorem answers_pendingNonce_quotingNode (account : Address) :
    ∃ asked, Query.Answers quotingNode (Query.pendingNonce account) 9 asked :=
  ⟨_, Query.answers_read.mpr ⟨_, rfl, Reader.decode_ofList (by decide +kernel) _, rfl⟩⟩

theorem answers_gasPrice_quotingNode :
    ∃ asked, Query.Answers quotingNode Query.gasPrice 250000000 asked :=
  ⟨_, Query.answers_read.mpr ⟨_, rfl, Reader.decode_ofList (by decide +kernel) _, rfl⟩⟩

theorem answers_estimateGas_quotingNode (arguments : CallArguments) :
    ∃ asked, Query.Answers quotingNode (Query.estimateGas arguments) 21000 asked :=
  ⟨_, Query.answers_read.mpr ⟨_, rfl, Reader.decode_ofList (by decide +kernel) _, rfl⟩⟩

/-- That node answers for the metadata of any options with a price and a limit. -/
theorem answers_metadata_quotingNode {transfer : Transfer} {price? limit? : Option String}
    {price : Uint256} {limit : UInt64} {second : List Asked}
    (hprice : Step.Answers quotingNode (gasPrice (optionsOf transfer price? limit?)) price second)
    (hlimit : gasLimit (optionsOf transfer price? limit?) = .ok limit) :
    ∃ asked, Step.Answers quotingNode (metadata (optionsOf transfer price? limit?))
      (metadataOf 9 price limit, .credit (21000 * price)) asked := by
  obtain ⟨first, hnonce⟩ := answers_pendingNonce_quotingNode transfer.sender
  obtain ⟨third, hestimate⟩ := answers_estimateGas_quotingNode
    { sender := transfer.sender, recipient := some transfer.recipient,
      value := some transfer.value }
  exact ⟨_, answers_metadata.mpr ⟨9, price, limit, 21000, first, second, third, hnonce, hprice,
    hlimit, hestimate, rfl, rfl, rfl⟩⟩

theorem answers_metadata_generous (transfer : Transfer) :
    ∃ asked, Step.Answers quotingNode (metadata (optionsOf transfer none (some "0x7530")))
      (metadataOf 9 250000000 30000, .credit (21000 * 250000000)) asked := by
  obtain ⟨second, hnode⟩ := answers_gasPrice_quotingNode
  have hprice : Step.Answers quotingNode (gasPrice (optionsOf transfer none (some "0x7530")))
      250000000 second := answers_gasPrice.mpr hnode
  have hlimit : gasLimit (optionsOf transfer none (some "0x7530")) = .ok 30000 :=
    gasLimit_eq_ok.mpr (by decide : Quantity.read "0x7530" = .ok 30000)
  exact answers_metadata_quotingNode hprice hlimit

theorem answers_metadata_hurried (transfer : Transfer) :
    ∃ asked, Step.Answers quotingNode
      (metadata (optionsOf transfer (some (Numeral.decimal 300000000)) none))
      (metadataOf 9 300000000 21000, .credit (21000 * 300000000)) asked := by
  have hprice : Step.Answers quotingNode
      (gasPrice (optionsOf transfer (some (Numeral.decimal 300000000)) none)) 300000000 [] :=
    answers_gasPrice.mpr ⟨Numeral.readUint256_decimal 300000000, rfl⟩
  have hlimit : gasLimit (optionsOf transfer (some (Numeral.decimal 300000000)) none) =
      .ok 21000 := gasLimit_eq_ok.mpr rfl
  exact answers_metadata_quotingNode hprice hlimit

/-- A transaction of a hundred units, the ninth of its sender, on the chain 88. -/
def hundredUnitsTransaction (price : Uint256) (limit : UInt64) : UnsignedTransaction where
  sender := .ofNat 20 0x7e5f4552091a69125d5dfcb7b8c2659029395bdf
  recipient := .ofNat 20 0x2222222222222222222222222222222222222222
  value := 100
  input := []
  nonce := 9
  gasPrice := price
  gasLimit := limit
  chainId := 88

/-- The first client's limit of gas is taken, with the price of the node; and the second client's
price, with the limit of a plain transfer. -/
theorem parse_payloads_metadata_hundredUnits :
    (∃ options m fee asked, preprocess hundredUnits generousOverrides = .ok options ∧
      Step.Answers quotingNode (metadata options) (m, fee) asked ∧
      ∃ text advertised d, payloads hundredUnits m 88 = .ok (text, advertised) ∧
        readUnsigned "unsigned_transaction" text
          = .ok (hundredUnitsTransaction 250000000 30000) ∧
        parse text false 88 = .ok d ∧
        d.metadata.find? "gas_price" = some (.string "0xee6b280") ∧
        d.metadata.find? "gas_limit" = some (.string "0x7530")) ∧
    ∃ options m fee asked, preprocess hundredUnits hurriedOverrides = .ok options ∧
      Step.Answers quotingNode (metadata options) (m, fee) asked ∧
      ∃ text advertised d, payloads hundredUnits m 88 = .ok (text, advertised) ∧
        readUnsigned "unsigned_transaction" text
          = .ok (hundredUnitsTransaction 300000000 21000) ∧
        parse text false 88 = .ok d ∧
        d.metadata.find? "gas_price" = some (.string "0x11e1a300") ∧
        d.metadata.find? "gas_limit" = some (.string "0x5208") := by
  have hcredited : Numeral.readInt256? "100" = some ⟨100⟩ := by decide +kernel
  have hmovement : ∀ price limit, ∃ debit credit payer payee credited,
      hundredUnits = [debit, credit] ∧ debit.account = some payer ∧
      Address.read payer.address = .ok (hundredUnitsTransaction price limit).sender ∧
      credit.account = some payee ∧
      Address.read payee.address = .ok (hundredUnitsTransaction price limit).recipient ∧
      credit.change? = some credited ∧
      credited.toInt = (hundredUnitsTransaction price limit).value.toNat :=
    fun _ _ => ⟨_, _, _, _, ⟨100⟩, rfl, rfl, rfl, rfl, rfl, hcredited, rfl⟩
  have hnonce := answers_pendingNonce_quotingNode hundredUnitsTransfer.sender
  have hlimit : 30000 = Numeral.spelled "0x7530" := by decide
  have hgenerous : Intends hundredUnits generousOverrides quotingNode 88
      (hundredUnitsTransaction 250000000 30000) :=
    ⟨hmovement _ _, rfl, hnonce, answers_gasPrice_quotingNode, hlimit, rfl⟩
  have hprice : JsonNumber.integer 300000000 = .integer (300000000 : Uint256).toNat :=
    congrArg JsonNumber.integer (by decide)
  have hhurried : Intends hundredUnits hurriedOverrides quotingNode 88
      (hundredUnitsTransaction 300000000 21000) :=
    ⟨hmovement _ _, rfl, hnonce, hprice, rfl, rfl⟩
  refine ⟨?_, ?_⟩
  · obtain ⟨asked, hmetadata⟩ := answers_metadata_generous hundredUnitsTransfer
    obtain ⟨-, -, text, advertised, e, d, -, hpayloads, hread, hintends, hparse, -, -, -, hprice,
      hlimit, -⟩ := parse_payloads_metadata preprocess_generous hmetadata 88
    obtain rfl := hintends.unique hgenerous
    exact ⟨_, _, _, asked, preprocess_generous, hmetadata, text, advertised, d, hpayloads, hread,
      hparse, hprice, hlimit⟩
  · obtain ⟨asked, hmetadata⟩ := answers_metadata_hurried hundredUnitsTransfer
    obtain ⟨-, -, text, advertised, e, d, -, hpayloads, hread, hintends, hparse, -, -, -, hprice,
      hlimit, -⟩ := parse_payloads_metadata preprocess_hurried hmetadata 88
    obtain rfl := hintends.unique hhurried
    exact ⟨_, _, _, asked, preprocess_hurried, hmetadata, text, advertised, d, hpayloads, hread,
      hparse, hprice, hlimit⟩

end PosvGateway.Construction
