import PosvGateway.Construction.Transaction
import PosvGateway.Construction.Options
import PosvGateway.Construction.Transfer
import PosvGateway.Query.Account
import PosvGateway.Rosetta.Signing

/-!
# Construction of transactions

A client builds a transaction in steps, and nothing is kept between them.

* `derive` finds the account of a key.
* `preprocess` reads a transfer and writes `Options`; `metadata` asks the node what is missing and
  writes `Metadata` and the fee to expect.
* `payloads` writes the unsigned transaction and what its sender must sign, and `combine` adds the
  signature, which must be the sender's.
* `parse` describes a transaction before or after it was signed, `hash` names it, and `submit`
  relays it to the node.
-/

namespace PosvGateway.Construction

/-- A dialogue that carries out a step of the construction. -/
abbrev Step (α : Type) := ExceptT ConstructionError Dialogue α

/-- Asks a query within a step; its error becomes one of the construction. -/
def Step.query {α : Type} (wrap : QueryError → ConstructionError) (query : Query α) : Step α :=
  ExceptT.mk (Dialogue.bind query.run fun answer => .done (Except.mapError wrap answer))

/-- The gas that a plain transfer uses. -/
def transferGas : UInt64 := 21000

/-- The name of the curve. -/
def curveName : String := "secp256k1"

/-- The name of the kind of signature. -/
def signatureName : String := "ecdsa_recovery"

/-! ### Numbers and bytes in texts -/

/-- Reads a number of 64 bits; `what` names it in the error. -/
def readQuantity (what text : String) : Except ConstructionError UInt64 :=
  match Quantity.read text with
  | .ok n => .ok n
  | .error fault => .error (.invalidMetadata (what ++ ": " ++ fault.message))

/-- Reads an amount; `what` names it in the error. -/
def readAmount (what text : String) : Except ConstructionError Uint256 :=
  match Numeral.readUint256 text with
  | .ok v => .ok v
  | .error fault => .error (.invalidMetadata (what ++ ": " ++ fault.message))

/-- Reads bytes; `what` names them in the error. -/
def readBytes (what text : String) : Except ConstructionError Bytes :=
  match Hex.decodeRepeated text with
  | .ok bytes => .ok bytes
  | .error e => .error (.invalidTransaction (what ++ ": " ++ e.message))

/-! ### The account of a key -/

/-- The account of a key. -/
def derive (key : EncodedKey) : Except ConstructionError AccountIdentifier :=
  if key.curveType ≠ curveName then .error (.unsupportedKey ("curve " ++ key.curveType))
  else match Hex.decodeRepeated key.hexBytes with
  | .error e => .error (.unsupportedKey e.message)
  | .ok [] => .error (.unsupportedKey "empty key")
  | .ok bytes =>
    match PublicKey.readAddress bytes with
    | .ok address => .ok (.ofAddress address)
    | .error e => .error (.unsupportedKey e.message)

/-! ### Options and metadata -/

/-- The text of a member by which a client overrides a number: a text, or a number as JSON writes
it. -/
def override (metadata : Option Json.Members) (name : String) :
    Except ConstructionError (Option String) :=
  match metadata.bind (·.find? name) with
  | none | some .null => .ok none
  | some (.string s) => .ok (some s)
  | some (.number n) => .ok (some n.render)
  | some other => .error (.invalidMetadata (name ++ ": " ++ other.render))

/-- The options of a transfer. The client may override the price and the limit of gas. -/
def preprocess (operations : List Operation) (metadata : Option Json.Members) :
    Except ConstructionError Options := do
  let transfer ← Transfer.ofOperations operations
  let gasPrice ← override metadata "gas_price"
  let gasLimit ← override metadata "gas_limit"
  let _ ← gasPrice.mapM (readAmount "gas_price")
  let _ ← gasLimit.mapM (readQuantity "gas_limit")
  return { sender := transfer.sender.checksum, recipient := transfer.recipient.checksum,
           amount := Numeral.decimal transfer.value.toNat, symbol := Currency.native.symbol,
           decimals := Currency.native.decimals, gasPrice, gasLimit }

/-- The price of gas: the client's own, or the node's. -/
def gasPrice (options : Options) : Step Uint256 :=
  match options.gasPrice with
  | some text => ExceptT.mk (.done (readAmount "gas_price" text))
  | none => Step.query .estimationFailed Query.gasPrice

/-- The limit of gas: the client's own, or that of a plain transfer. -/
def gasLimit (options : Options) : Except ConstructionError UInt64 :=
  match options.gasLimit with
  | some text => readQuantity "gas_limit" text
  | none => .ok transferGas

/-- Asks for the metadata of a transfer, and for the fee to expect: the price of the gas that the
node estimates. -/
def metadata (options : Options) : Step (Metadata × Amount) := do
  let sender ← Transfer.readAddress "sender" options.sender
  let recipient ← Transfer.readAddress "recipient" options.recipient
  let amount ← readAmount "amount" options.amount
  let nonce ← Step.query .accountLookupFailed (Query.pendingNonce sender)
  let price ← gasPrice options
  let limit ← gasLimit options
  let estimate ← Step.query .estimationFailed
    (Query.estimateGas { sender, recipient := some recipient, value := some amount })
  let fee : Uint256 := .ofNat 256 estimate.toNat * price
  return ({ nonce := Quantity.write nonce, gasPrice := Numeral.hex price.toNat,
            gasLimit := Quantity.write limit }, .credit fee)

/-! ### Payload and signature -/

/-- The unsigned transaction of a transfer on a chain. -/
def unsigned (operations : List Operation) (metadata : Metadata) (chain : UInt64) :
    Except ConstructionError UnsignedTransaction := do
  let transfer ← Transfer.ofOperations operations
  let nonce ← readQuantity "nonce" metadata.nonce
  let gasPrice ← readAmount "gas_price" metadata.gasPrice
  let gasLimit ← readQuantity "gas_limit" metadata.gasLimit
  return { sender := transfer.sender, recipient := transfer.recipient, value := transfer.value,
           input := [], nonce, gasPrice, gasLimit, chainId := chain }

/-- What the sender of an unsigned transaction must sign. -/
def payload (e : UnsignedTransaction) : SigningPayload where
  account := .ofAddress e.sender
  hexBytes := e.signingDigest.toHex
  signatureType := signatureName

/-- The text of the unsigned transaction of a transfer, and what its sender must sign. -/
def payloads (operations : List Operation) (metadata : Metadata) (chain : UInt64) :
    Except ConstructionError (String × SigningPayload) := do
  let e ← unsigned operations metadata chain
  return (Hex.encode e.encode, payload e)

/-- A transaction for one chain is of no use on another. -/
def requireChain (transaction network : UInt64) : Except ConstructionError Unit :=
  if transaction = network then .ok ()
  else .error (.invalidNetwork ("transaction is for chain " ++ Numeral.decimal transaction.toNat
    ++ ", network is " ++ Numeral.decimal network.toNat))

/-- Reads the text of an unsigned transaction; `what` names it in the error. -/
def readUnsigned (what text : String) : Except ConstructionError UnsignedTransaction := do
  Except.mapError (fun e => .invalidTransaction e.message)
    (UnsignedTransaction.decode (← readBytes what text))

/-- Reads the text of a signed transaction; `what` names it in the error. -/
def readSigned (what text : String) : Except ConstructionError SignedTransaction := do
  Except.mapError (fun e => .invalidTransaction e.message)
    (SignedTransaction.decode (← readBytes what text))

/-- Reads the one signature there must be. -/
def readSignature (signatures : List SignedPayload) : Except ConstructionError Bytes :=
  match signatures with
  | [signed] => do
    let bytes ← readBytes "signature" signed.hexBytes
    if bytes.length = Signature.size then return bytes
    else throw (.signatureLength bytes.length)
  | signatures => .error (.signatureCount signatures.length)

/-- Attaches a signature to an unsigned transaction, whose sender must have made it. -/
def attach (e : UnsignedTransaction) (signature : Bytes) :
    Except ConstructionError SignedTransaction := do
  let signed ← Except.mapError .recovery (SignedTransaction.attach e signature)
  let recovered ← Except.mapError .recovery signed.sender
  if recovered = e.sender then return signed
  else throw (.signerMismatch e.sender recovered)

/-- The text of the signed transaction of an unsigned one and its sender's signature. -/
def combine (unsigned : String) (signatures : List SignedPayload) (chain : UInt64) :
    Except ConstructionError String := do
  let e ← readUnsigned "unsigned_transaction" unsigned
  let signature ← readSignature signatures
  requireChain e.chainId chain
  let signed ← attach e signature
  return Hex.encode signed.encode

/-! ### Descriptions -/

/-- The description of a transaction. -/
structure Description where
  operations : List Operation
  /-- The accounts that have signed. -/
  signers : List AccountIdentifier
  metadata : Json.Members

/-- A description in JSON. -/
def Description.toJson (d : Description) : Json :=
  .ofFields
    [("operations", some (.array (d.operations.map Operation.toJson))),
      ("account_identifier_signers",
        if d.signers.isEmpty then none
        else some (.array (d.signers.map AccountIdentifier.toJson))),
      ("metadata", some (.object d.metadata))]

/-- The numbers of a transaction. -/
def describeNumbers (nonce : UInt64) (gasPrice : Uint256) (gasLimit : UInt64)
    (chain : Option UInt64) : Json.Members :=
  OrderedMap.ofList
    ([("nonce", .quantity nonce), ("gas_price", .uint256 gasPrice),
        ("gas_limit", .quantity gasLimit)]
      ++ (chain.map fun chain => ("chain_id", .quantity chain)).toList)

/-- The description of an unsigned transaction. -/
def describeUnsigned (e : UnsignedTransaction) : Description where
  operations := Transfer.operations e.sender (some e.recipient) e.value
  signers := []
  metadata := describeNumbers e.nonce e.gasPrice e.gasLimit (some e.chainId)

/-- The description of a transaction that `sender` has signed. -/
def describeSigned (tx : SignedTransaction) (sender : Address) : Description where
  operations := Transfer.operations sender tx.recipient tx.value
  signers := [.ofAddress sender]
  metadata := describeNumbers tx.nonce tx.gasPrice tx.gasLimit tx.chainId

/-- Describes the text of a transaction. A chain that it is bound to must be the given one. -/
def parse (text : String) (signed : Bool) (chain : UInt64) :
    Except ConstructionError Description :=
  if signed then do
    let tx ← readSigned "transaction" text
    if let some bound := tx.chainId then requireChain bound chain
    let sender ← Except.mapError .recovery tx.sender
    return describeSigned tx sender
  else do
    let e ← readUnsigned "transaction" text
    requireChain e.chainId chain
    return describeUnsigned e

/-! ### Identifier and submission -/

/-- The hash of the text of a signed transaction. -/
def hash (text : String) : Except ConstructionError Digest := do
  return (← readSigned "signed_transaction" text).hash

/-- Relays the text of a signed transaction to the node, which reports its hash. -/
def submit (text : String) : Step Digest := do
  let bytes ← readBytes "signed_transaction" text
  Step.query .submissionRejected (Query.submit bytes)

end PosvGateway.Construction
