import PosvGateway.Query.Error

/-!
# Errors of construction

What may go wrong while a transaction is constructed, from the operations of a client to the node's
acceptance.
-/

namespace PosvGateway

/-- Why a step of the construction failed. -/
inductive ConstructionError where
  /-- The bytes are no key of a curve that is supported. -/
  | unsupportedKey (detail : String)
  /-- The operations are no transfer. -/
  | malformedOperations (detail : String)
  /-- The options or the metadata cannot be read. -/
  | invalidMetadata (detail : String)
  /-- A transaction or a signature cannot be read. -/
  | invalidTransaction (detail : String)
  /-- There is not just one signature. -/
  | signatureCount (count : Nat)
  /-- The signature has the wrong length. -/
  | signatureLength (length : Nat)
  /-- The transaction is for another chain. -/
  | invalidNetwork (detail : String)
  /-- Another account has signed. -/
  | signerMismatch (expected recovered : Address)
  /-- No account signs so. -/
  | recovery (e : SignatureError)
  /-- The fee is unknown. -/
  | estimationFailed (e : QueryError)
  /-- The account is unknown. -/
  | accountLookupFailed (e : QueryError)
  /-- The node refused the transaction. -/
  | submissionRejected (e : QueryError)
  deriving DecidableEq

/-- The wording of an error. -/
def ConstructionError.message : ConstructionError → String
  | .unsupportedKey detail => "unsupported public key: " ++ detail
  | .malformedOperations detail => "malformed operations: " ++ detail
  | .invalidMetadata detail => "invalid options or metadata: " ++ detail
  | .invalidTransaction detail => "transaction could not be parsed: " ++ detail
  | .signatureCount count => "expected exactly one signature, got " ++ Numeral.decimal count
  | .signatureLength length =>
    "signature must be " ++ Numeral.decimal Signature.size ++ " bytes, got "
      ++ Numeral.decimal length
  | .invalidNetwork detail => "invalid network: " ++ detail
  | .signerMismatch expected recovered =>
    "signature was produced by " ++ recovered.checksum ++ ", expected " ++ expected.checksum
  | .recovery e => "signature recovery failed: " ++ e.message
  | .estimationFailed e => "gas estimation failed: " ++ e.message
  | .accountLookupFailed e => "account lookup failed: " ++ e.message
  | .submissionRejected e => "transaction rejected: " ++ e.message

end PosvGateway
