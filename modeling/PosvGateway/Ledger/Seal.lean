import PosvGateway.Ledger.Header
import PosvGateway.Rlp.Field
import PosvGateway.Signature

/-!
# Seals

The sealer of a block signs its header without the seal, and the seal, a signature of 65 bytes, is
the end of the header's extra data. The `miner` field does not name the sealer.

* `Header.sealBytes` is the byte string whose digest the sealer signs;
* `Header.sealer` is the account that signed it.
-/

namespace PosvGateway.Header

/-- The types of the sealed fields. -/
def sealKinds : List Rlp.Kind :=
  [.octets 32, .octets 32, .octets 20, .octets 32, .octets 32, .octets 32, .octets 256, .uint256,
    .uint64, .uint64, .uint64, .uint64, .bytes, .octets 32, .octets 8]

/-- The sealed fields of a header with the given extra data. -/
def sealRow (h : Header) (extraData : Bytes) : Rlp.Row sealKinds :=
  (h.parentHash, h.unclesHash, h.miner, h.stateRoot, h.transactionsRoot, h.receiptsRoot,
    h.logsBloom, h.difficulty, h.number, h.gasLimit, h.gasUsed, h.timestamp, extraData, h.mixHash,
    h.nonce, ())

/-- The extra data in front of the seal, and the seal. -/
def splitSeal (h : Header) : Except SignatureError (Bytes × Bytes) :=
  if h.extraData.length < Signature.size then .error (.missingSignature Signature.size)
  else
    let front := h.extraData.length - Signature.size
    .ok (h.extraData.take front, h.extraData.drop front)

/-- The byte string whose digest is signed: the header without its hash and its seal. -/
def sealBytes (h : Header) : Except SignatureError Bytes :=
  h.splitSeal.map fun (front, _) => Rlp.encodeRow sealKinds (h.sealRow front)

/-- The digest that is signed. -/
def sealDigest (h : Header) : Except SignatureError Digest := h.sealBytes.map keccak256

/-- The account that sealed the block. -/
def sealer (h : Header) : Except SignatureError Address :=
  match h.splitSeal, h.sealDigest with
  | .ok (_, signature), .ok digest => Signature.signer digest signature
  | .error e, _ | _, .error e => .error e

end PosvGateway.Header
