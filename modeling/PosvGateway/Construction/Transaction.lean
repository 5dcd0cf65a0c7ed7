import PosvGateway.Rlp.Field
import PosvGateway.Signature

/-!
# Transactions on the wire

A legacy transaction is six fields and, once signed, a recoverable signature whose recovery value
binds the chain (EIP-155).

* `LegacyTransaction.signingBytes` is the byte string whose digest is signed;
* `UnsignedTransaction` carries a transfer between the steps of its construction, together with its
  sender and its chain;
* `SignedTransaction` is what the ledger takes. Its sender is recovered from its signature.
-/

namespace PosvGateway

/-- Why bytes are no transaction. -/
inductive TransactionError where
  /-- The bytes are no list of the right fields. -/
  | rlp (e : Rlp.Error)
  /-- The recovery value is neither 27 nor 28 nor one that binds a chain. -/
  | invalidV (v : UInt64)
  deriving DecidableEq

/-- The wording of an error. -/
def TransactionError.message : TransactionError → String
  | .rlp e => "rlp: " ++ e.message
  | .invalidV v => "invalid v value " ++ Numeral.decimal v.toNat

/-! ### What is signed -/

/-- The fields of a transaction that its sender decides. -/
structure LegacyTransaction where
  /-- The number of transactions the sender has sent before. -/
  nonce : UInt64
  gasPrice : Uint256
  gasLimit : UInt64
  /-- The recipient; a transaction without one creates a contract. -/
  recipient : Option Address
  value : Uint256
  input : Bytes
  deriving DecidableEq

namespace LegacyTransaction

/-- The types of the fields. -/
def kinds : List Rlp.Kind := [.uint64, .uint256, .uint64, .optional 20, .uint256, .bytes]

/-- The fields as a row. -/
def row (tx : LegacyTransaction) : Rlp.Row kinds :=
  (tx.nonce, tx.gasPrice, tx.gasLimit, tx.recipient, tx.value, tx.input, ())

/-- The types of the fields when a chain is bound: the chain and two zeros follow. -/
def chainKinds : List Rlp.Kind :=
  [.uint64, .uint256, .uint64, .optional 20, .uint256, .bytes, .uint64, .uint8, .uint8]

/-- The fields as a row that binds a chain. -/
def chainRow (tx : LegacyTransaction) (chain : UInt64) : Rlp.Row chainKinds :=
  (tx.nonce, tx.gasPrice, tx.gasLimit, tx.recipient, tx.value, tx.input, chain, 0, 0, ())

/-- The byte string whose digest is signed, for a chain or for any. -/
def signingBytes (tx : LegacyTransaction) : Option UInt64 → Bytes
  | some chain => Rlp.encodeRow chainKinds (tx.chainRow chain)
  | none => Rlp.encodeRow kinds tx.row

/-- The digest that is signed. -/
def signingDigest (tx : LegacyTransaction) (chain : Option UInt64) : Digest :=
  keccak256 (tx.signingBytes chain)

end LegacyTransaction

/-! ### Unsigned -/

/-- A transfer that waits for its signature. -/
structure UnsignedTransaction where
  sender : Address
  recipient : Address
  value : Uint256
  input : Bytes
  nonce : UInt64
  gasPrice : Uint256
  gasLimit : UInt64
  chainId : UInt64
  deriving DecidableEq

namespace UnsignedTransaction

/-- The types of the fields. -/
def kinds : List Rlp.Kind :=
  [.octets 20, .octets 20, .uint256, .bytes, .uint64, .uint256, .uint64, .uint64]

/-- The fields as a row. -/
def row (e : UnsignedTransaction) : Rlp.Row kinds :=
  (e.sender, e.recipient, e.value, e.input, e.nonce, e.gasPrice, e.gasLimit, e.chainId, ())

/-- The transaction of a row. -/
def ofRow : Rlp.Row kinds → UnsignedTransaction
  | (sender, recipient, value, input, nonce, gasPrice, gasLimit, chainId, ()) =>
    { sender, recipient, value, input, nonce, gasPrice, gasLimit, chainId }

/-- The bytes of an unsigned transaction. -/
def encode (e : UnsignedTransaction) : Bytes := Rlp.encodeRow kinds e.row

/-- Reads an unsigned transaction. -/
def decode (bytes : Bytes) : Except TransactionError UnsignedTransaction :=
  match Rlp.decodeRow kinds bytes with
  | .ok row => .ok (ofRow row)
  | .error e => .error (.rlp e)

/-- What is signed. -/
def transaction (e : UnsignedTransaction) : LegacyTransaction where
  nonce := e.nonce
  gasPrice := e.gasPrice
  gasLimit := e.gasLimit
  recipient := some e.recipient
  value := e.value
  input := e.input

/-- The digest that the sender signs. -/
def signingDigest (e : UnsignedTransaction) : Digest := e.transaction.signingDigest (some e.chainId)

end UnsignedTransaction

/-! ### Signed -/

/-- A transaction with its signature. -/
structure SignedTransaction extends LegacyTransaction where
  /-- The recovery value: 27 or 28, or twice the chain id and 35 or 36. -/
  v : UInt64
  r : Uint256
  s : Uint256
  deriving DecidableEq

namespace SignedTransaction

/-- The types of the fields. -/
def kinds : List Rlp.Kind :=
  [.uint64, .uint256, .uint64, .optional 20, .uint256, .bytes, .uint64, .uint256, .uint256]

/-- The fields as a row. -/
def row (tx : SignedTransaction) : Rlp.Row kinds :=
  (tx.nonce, tx.gasPrice, tx.gasLimit, tx.recipient, tx.value, tx.input, tx.v, tx.r, tx.s, ())

/-- The transaction of a row. -/
def ofRow : Rlp.Row kinds → SignedTransaction
  | (nonce, gasPrice, gasLimit, recipient, value, input, v, r, s, ()) =>
    { nonce, gasPrice, gasLimit, recipient, value, input, v, r, s }

/-- The bytes of a transaction. -/
def encode (tx : SignedTransaction) : Bytes := Rlp.encodeRow kinds tx.row

/-- The hash of a transaction. -/
def hash (tx : SignedTransaction) : Digest := keccak256 tx.encode

/-- The chain that the recovery value binds, if it binds one. -/
def chainId (tx : SignedTransaction) : Option UInt64 :=
  if 35 ≤ tx.v then some ((tx.v - 35) / 2) else none

/-- The parity that the recovery value tells. -/
def parity (tx : SignedTransaction) : Except TransactionError Bool :=
  if tx.v = 27 ∨ tx.v = 28 then .ok (tx.v = 28)
  else if 35 ≤ tx.v then .ok ((tx.v - 35) % 2 = 1)
  else .error (.invalidV tx.v)

/-- Reads a transaction, whose recovery value must be one. -/
def decode (bytes : Bytes) : Except TransactionError SignedTransaction := do
  match Rlp.decodeRow kinds bytes with
  | .error e => throw (.rlp e)
  | .ok row =>
    let tx := ofRow row
    let _ ← tx.parity
    return tx

/-- The recovery value of a parity on a chain. -/
def recoveryValue (chain : UInt64) (odd : Bool) : UInt64 :=
  chain * 2 + 35 + (if odd then 1 else 0)

/-- Attaches a signature to an unsigned transaction. -/
def attach (e : UnsignedTransaction) (signature : Bytes) :
    Except SignatureError SignedTransaction :=
  if signature.length ≠ Signature.size then .error (.invalidSignatureLength signature.length)
  else
    let byte := signature.getLastD 0
    match Signature.parity? byte with
    | none => .error (.invalidRecoveryId byte)
    | some odd =>
      .ok { e.transaction with
            v := recoveryValue e.chainId odd
            r := .ofNat 256 (Bytes.toNat (signature.take 32))
            s := .ofNat 256 (Bytes.toNat ((signature.drop 32).take 32)) }

/-- The digest that was signed. -/
def signingDigest (tx : SignedTransaction) : Digest :=
  tx.toLegacyTransaction.signingDigest tx.chainId

/-- The signature as 65 bytes. -/
def signature (tx : SignedTransaction) (odd : Bool) : Bytes :=
  Bytes.ofNatSized 32 tx.r.toNat ++ Bytes.ofNatSized 32 tx.s.toNat ++ [if odd then 1 else 0]

/-- The account that signed a transaction. -/
def sender (tx : SignedTransaction) : Except SignatureError Address :=
  match tx.parity with
  | .ok odd => Signature.signer tx.signingDigest (tx.signature odd)
  | .error e => .error (.invalidSignature e.message)

end SignedTransaction

end PosvGateway
