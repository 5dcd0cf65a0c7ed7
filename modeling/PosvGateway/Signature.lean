import PosvGateway.Address
import PosvGateway.Secp256k1.PublicKey

/-!
# Recoverable signatures

A signature is 65 bytes: `r`, `s` and a recovery byte, which is 0 or 1, or 27 or 28 in the older
convention. `Signature.signer` finds the account that signed a digest.
-/

namespace PosvGateway

/-- Why a signature or a key was refused. -/
inductive SignatureError where
  /-- The extra data of a header is too short for a seal of that many bytes. -/
  | missingSignature (size : Nat)
  /-- A signature has the wrong length. -/
  | invalidSignatureLength (length : Nat)
  /-- The recovery byte is none of the four. -/
  | invalidRecoveryId (byte : UInt8)
  /-- No key signs so. -/
  | invalidSignature (detail : String)
  /-- The bytes are no key. -/
  | invalidPublicKey (detail : String)
  deriving DecidableEq, Repr

namespace Signature

/-- The length of a signature. -/
def size : Nat := 65

end Signature

namespace SignatureError

/-- The wording of an error. -/
def message : SignatureError → String
  | .missingSignature size =>
    "extra-data " ++ Numeral.decimal size ++ " byte suffix signature missing"
  | .invalidSignatureLength length =>
    "signature must be " ++ Numeral.decimal Signature.size ++ " bytes, got "
      ++ Numeral.decimal length
  | .invalidRecoveryId byte => "invalid recovery id: " ++ Numeral.decimal byte.toNat
  | .invalidSignature detail => "invalid signature: " ++ detail
  | .invalidPublicKey detail => "invalid public key: " ++ detail

/-- The detail of every failure of the curve's arithmetic. -/
def curveDetail : String := "signature error"

end SignatureError

namespace Signature

/-- The parity that a recovery byte tells, in either convention. -/
def parity? (byte : UInt8) : Option Bool :=
  if byte = 0 ∨ byte = 27 then some false
  else if byte = 1 ∨ byte = 28 then some true
  else none

/-- The key that signed a digest. -/
def signerKey (digest : Digest) (signature : Bytes) : Except SignatureError PublicKey :=
  if signature.length ≠ size then .error (.invalidSignatureLength signature.length)
  else
    let byte := signature.getLastD 0
    match parity? byte with
    | none => .error (.invalidRecoveryId byte)
    | some odd =>
      let r := Bytes.toNat (signature.take 32)
      let s := Bytes.toNat ((signature.drop 32).take 32)
      match PublicKey.recover? digest r s odd with
      | some key => .ok key
      | none => .error (.invalidSignature SignatureError.curveDetail)

/-- The account that signed a digest. -/
def signer (digest : Digest) (signature : Bytes) : Except SignatureError Address :=
  (signerKey digest signature).map PublicKey.address

end Signature

/-- The account of a key in one of the SEC1 forms. -/
def PublicKey.readAddress (bytes : Bytes) : Except SignatureError Address :=
  match PublicKey.ofSec1? bytes with
  | some key => .ok key.address
  | none => .error (.invalidPublicKey SignatureError.curveDetail)

end PosvGateway
