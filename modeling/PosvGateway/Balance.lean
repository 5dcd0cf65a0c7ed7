import PosvGateway.Node.Dialogue
import PosvGateway.Query.Error
import PosvGateway.Trace.Executed

/-!
# Running balances

Every operation that names an account tells the balance of that account after it. Opening balances
are asked of the node once per account; then the operations are applied in the order of the
transactions. Failed operations leave a balance as it is.

* `namedAccounts` are the accounts of a list of transactions, each once, in the order of their
  text, and `Balances.fetch` asks for their balances in one batch;
* `Balances.annotate` writes the running balances into the metadata of the operations. It stops at
  an operation whose amount cannot be read, and leaves that one and all later ones as they were.
-/

namespace PosvGateway

/-- The member of an operation's metadata that tells the balance after it. -/
def newBalanceKey : String := "new_balance"

/-- The accounts that the operations of some transactions name, each once, in the order of their
text. -/
def namedAccounts (transactions : List Transaction) : List String :=
  let named := transactions.flatMap fun tx => tx.operations.filterMap fun op =>
    op.account.map AccountIdentifier.address
  (OrderedMap.ofList (named.map (·, ()))).map Prod.fst

/-- Balances by the text of their account. -/
abbrev Balances := OrderedMap String Int256

namespace Balances

/-! ### Opening balances -/

/-- Reads the balance of an account from the node's reply. -/
def ofReply (reply : Reply) : Except QueryError Int256 := do
  let text ← Except.mapError .node reply
  let amount ← Except.mapError .node (Reader.uint256.decode Method.balance.name text)
  match Int256.ofUint256? amount with
  | some balance => return balance
  | none => throw (.trace (.valueOverflow amount))

/-- Reads the balances of accounts from the replies to them, in order. -/
def ofReplies : List String → List Reply → Except QueryError Balances
  | account :: accounts, reply :: replies => do
    let balance ← ofReply reply
    let balances ← ofReplies accounts replies
    return (account, balance) :: balances
  | _, _ => .ok []

/-- Asks for the balances of accounts at a block, all in one batch. -/
def fetch (accounts : List String) (tag : Json) : Query Balances := do
  let replies ← Query.batch (accounts.map fun account => ⟨.balance, [.string account, tag]⟩)
  Query.ofExcept (ofReplies accounts replies)

/-! ### Annotation -/

/-- The balance after an operation on an account. -/
def after (balance : Int256) (op : Operation) : Option Int256 :=
  if op.status = some OperationStatus.fail then some balance
  else op.change?.map (balance + ·)

/-- The operation with the balance after it in its metadata. -/
def note (op : Operation) (balance : Int256) : Operation :=
  { op with
    metadata := some ((op.metadata.getD []).insert newBalanceKey
      (.string (Numeral.signedDecimal balance.toInt))) }

/-- Applies one operation of the transaction `hash`. An account without a balance starts at
zero. -/
def apply (balances : Balances) (hash : String) (op : Operation) :
    Except DerivationError (Operation × Balances) :=
  match op.account with
  | none => .ok (op, balances)
  | some account =>
    match after ((balances.find? account.address).getD .zero) op with
    | some balance => .ok (note op balance, balances.insert account.address balance)
    | none =>
      .error (.decode ("operation " ++ Numeral.signedDecimal op.index ++ " of " ++ hash
        ++ " has an unreadable amount"))

/-- Applies the operations of the transaction `hash`. -/
def annotateOperations (hash : String) : Balances → List Operation →
    List Operation × Except DerivationError Balances
  | balances, [] => ([], .ok balances)
  | balances, op :: ops =>
    match balances.apply hash op with
    | .error e => (op :: ops, .error e)
    | .ok (op, balances) =>
      let (ops, result) := annotateOperations hash balances ops
      (op :: ops, result)

/-- Applies the operations of all transactions: the transactions as far as they could be
annotated, and whether they all could. -/
def annotate : Balances → List Transaction → List Transaction × Except DerivationError Unit
  | _, [] => ([], .ok ())
  | balances, tx :: txs =>
    let (operations, result) := balances.annotateOperations tx.hash tx.operations
    let tx := { tx with operations }
    match result with
    | .error e => (tx :: txs, .error e)
    | .ok balances =>
      let (txs, result) := annotate balances txs
      (tx :: txs, result)

end Balances

/-- The transactions with their running balances, which open as the node tells at a block. -/
def withRunningBalances (transactions : List Transaction) (tag : Json) :
    Query (List Transaction) := do
  let opening ← Balances.fetch (namedAccounts transactions) tag
  match opening.annotate transactions with
  | (annotated, .ok ()) => return annotated
  | (_, .error e) => throw (.trace e)

end PosvGateway
