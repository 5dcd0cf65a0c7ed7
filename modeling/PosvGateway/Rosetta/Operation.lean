import PosvGateway.Json.Scalars

/-!
# Operations and transactions

The Rosetta view of a ledger: a transaction is a numbered list of operations, each of which changes
the balance of one account by one amount.

* `Amount.credit` and `Amount.debit` write an amount of the native currency with either sign, and
  `Operation.change?` reads it back;
* the readers and `toJson` functions give the JSON form of each type, in which what is not set is
  left out.
-/

namespace PosvGateway

/-! ### Amounts -/

/-- A currency. -/
structure Currency where
  symbol : String
  /-- The number of decimals of its unit. -/
  decimals : Nat
  deriving DecidableEq, Repr

/-- The currency of the ledger. -/
def Currency.native : Currency := ⟨"TOMO", 18⟩

/-- A signed decimal amount in the smallest unit of a currency. -/
structure Amount where
  value : String
  currency : Currency
  deriving DecidableEq, Repr

namespace Amount

/-- The native amount `+v`. -/
def credit (v : Uint256) : Amount := ⟨Numeral.decimal v.toNat, .native⟩

/-- The native amount `-v`. -/
def debit (v : Uint256) : Amount := ⟨Numeral.signedDecimal (-v.toNat), .native⟩

end Amount

/-! ### Operations -/

/-- An account of the ledger. -/
structure AccountIdentifier where
  address : String
  metadata : Option Json.Members := none

/-- The account of an address. -/
def AccountIdentifier.ofAddress (address : Address) : AccountIdentifier :=
  ⟨address.checksum, none⟩

/-! The names of the types of operations. -/

namespace OperationType

def fee : String := "FEE"
def call : String := "CALL"
def callCode : String := "CALLCODE"
def delegateCall : String := "DELEGATECALL"
def staticCall : String := "STATICCALL"
def create : String := "CREATE"
def create2 : String := "CREATE2"
def selfDestruct : String := "SELFDESTRUCT"
def destruct : String := "DESTRUCT"
def reward : String := "REWARD"

/-- Every type that this gateway announces. -/
def all : List String :=
  [fee, call, callCode, delegateCall, staticCall, create, create2, selfDestruct, destruct, reward]

/-- The frames that never change whether an account exists. -/
def calls : List String := [call, callCode, delegateCall, staticCall]

/-- The frames that create an account. -/
def creations : List String := [create, create2]

end OperationType

/-! The names of the statuses of operations. -/

namespace OperationStatus

def success : String := "SUCCESS"
def fail : String := "FAIL"

end OperationStatus

/-- A change of the balance of an account. -/
structure Operation where
  /-- The place among the operations of its transaction. -/
  index : Int
  /-- The places of the operations it belongs to. -/
  related : Option (List Int) := none
  kind : String
  status : Option String := none
  account : Option AccountIdentifier := none
  amount : Option Amount := none
  metadata : Option Json.Members := none

/-- The amount as a balance, zero where there is none; an amount that is no balance is
unreadable. -/
def Operation.change? (op : Operation) : Option Int256 :=
  match op.amount with
  | some amount => Numeral.readInt256? amount.value
  | none => some .zero

/-- A transaction. -/
structure Transaction where
  hash : String
  operations : List Operation
  metadata : Option Json.Members := none

/-! ### JSON -/

namespace Currency

/-- Reads a currency. -/
def reader : Reader Currency :=
  (Currency.mk <$> .required "symbol" Reader.text <*> .required "decimals" Reader.uint32 :
    Fields Currency).record

/-- A currency in JSON. -/
def toJson (c : Currency) : Json :=
  .mkObject [("symbol", .string c.symbol), ("decimals", .nat c.decimals)]

end Currency

namespace Amount

/-- Reads an amount. -/
def reader : Reader Amount :=
  (Amount.mk <$> .required "value" Reader.text <*> .required "currency" Currency.reader :
    Fields Amount).record

/-- An amount in JSON. -/
def toJson (a : Amount) : Json :=
  .mkObject [("value", .string a.value), ("currency", a.currency.toJson)]

end Amount

namespace AccountIdentifier

/-- Reads an account. -/
def reader : Reader AccountIdentifier :=
  (AccountIdentifier.mk <$> .required "address" Reader.text
    <*> .optional "metadata" Reader.object : Fields AccountIdentifier).record

/-- An account in JSON. -/
def toJson (a : AccountIdentifier) : Json :=
  .ofFields [("address", some (.string a.address)), ("metadata", a.metadata.map .object)]

end AccountIdentifier

/-- Reads a record of one text. -/
def Reader.wrappedText (name : String) : Reader String :=
  (.required name Reader.text : Fields String).record

/-- Reads the place of an operation. -/
def Reader.operationIndex : Reader Int := (.required "index" Reader.int64 : Fields Int).record

/-- The place of an operation in JSON. -/
def Json.operationIndex (index : Int) : Json := .mkObject [("index", .int index)]

namespace Operation

/-- The members of an operation in JSON. -/
def fields : Fields Operation :=
  Operation.mk <$> .required "operation_identifier" Reader.operationIndex
    <*> .optional "related_operations" (Reader.list Reader.operationIndex)
    <*> .required "type" Reader.text
    <*> .optional "status" Reader.text
    <*> .optional "account" AccountIdentifier.reader
    <*> .optional "amount" Amount.reader
    <*> .optional "metadata" Reader.object

/-- Reads an operation. -/
def reader : Reader Operation := fields.record

/-- An operation in JSON. -/
def toJson (op : Operation) : Json :=
  .ofFields
    [("operation_identifier", some (.operationIndex op.index)),
      ("related_operations", op.related.map fun places => .array (places.map .operationIndex)),
      ("type", some (.string op.kind)), ("status", op.status.map .string),
      ("account", op.account.map AccountIdentifier.toJson),
      ("amount", op.amount.map Amount.toJson), ("metadata", op.metadata.map .object)]

end Operation

/-- The identifier of a transaction in JSON. -/
def Json.transactionIdentifier (hash : String) : Json := .mkObject [("hash", .string hash)]

namespace Transaction

/-- Reads a transaction. -/
def reader : Reader Transaction :=
  (Transaction.mk <$> .required "transaction_identifier" (Reader.wrappedText "hash")
    <*> .required "operations" (Reader.list Operation.reader)
    <*> .optional "metadata" Reader.object : Fields Transaction).record

/-- A transaction in JSON. -/
def toJson (tx : Transaction) : Json :=
  .ofFields
    [("transaction_identifier", some (.transactionIdentifier tx.hash)),
      ("operations", some (.array (tx.operations.map Operation.toJson))),
      ("metadata", tx.metadata.map .object)]

end Transaction

end PosvGateway
