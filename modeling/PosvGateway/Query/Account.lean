import PosvGateway.Query.Assembly

/-!
# Accounts and fees

The balance of an account at a block, the next number of its transactions, and what gas costs.
-/

namespace PosvGateway

/-- The balance of an account at a block. -/
structure AccountState where
  block : BlockIdentifier
  balance : Uint256
  /-- The number of transactions it has sent. -/
  nonce : UInt64
  deriving DecidableEq

/-- What is asked about a transaction that is not yet made. -/
structure CallArguments where
  sender : Address
  recipient : Option Address := none
  value : Option Uint256 := none
  data : Option Bytes := none
  deriving DecidableEq

/-- The arguments of a call in JSON. -/
def CallArguments.toJson (a : CallArguments) : Json :=
  .ofFields
    [("from", some (.octets a.sender)), ("to", a.recipient.map .octets),
      ("value", a.value.map .uint256), ("data", a.data.map .bytes)]

namespace Query

/-- Asks for the chain id of the node. -/
def chainId : Query UInt64 := read Reader.quantity .chainId []

/-- Asks for the balance of an account at a block. -/
def balance (account : Address) (reference : BlockReference) : Query AccountState := do
  let header ← header reference
  let tag := (BlockReference.number header.number).tag
  let balance ← read Reader.uint256 .balance [.octets account, tag]
  let nonce ← read Reader.quantity .transactionCount [.octets account, tag]
  return { block := header.identifier, balance, nonce }

/-- Asks for the number of transactions of an account, those that wait in the pool included. -/
def pendingNonce (account : Address) : Query UInt64 :=
  read Reader.quantity .transactionCount [.octets account, .string "pending"]

/-- Asks for the price of a unit of gas. -/
def gasPrice : Query Uint256 := read Reader.uint256 .gasPrice []

/-- Asks how much gas a transaction would use. -/
def estimateGas (arguments : CallArguments) : Query UInt64 :=
  read Reader.quantity .estimateGas [arguments.toJson]

/-- Relays a signed transaction; the answer is the hash that the node reports. -/
def submit (signed : Bytes) : Query Digest :=
  read (Reader.octets 32) .sendRawTransaction [.bytes signed]

/-- Relays a call of a method. Only receipts are offered, by the hash of their transaction. -/
def relay (method : String) (parameters : Json.Members) : Query Json.Members := do
  if method ≠ Method.transactionReceipt.name then throw (.unsupportedCall method)
  match parameters.find? "tx_hash" with
  | some (.string text) =>
    match Hex.decodeOctets 32 text with
    | .error e => throw (.invalidCallParameters ("tx_hash: " ++ e.message))
    | .ok hash =>
      let text ← call .transactionReceipt [.octets hash]
      match Reader.run Reader.json text with
      | .ok (.object receipt) => return receipt
      | .ok other => throw (.unencodableOutput ("expected an object, got " ++ other.render))
      | .error misfit => throw (.unencodableOutput misfit.message)
  | _ => throw (.invalidCallParameters "tx_hash is required")

end Query

end PosvGateway
