import PosvGateway.Json.Scalars

/-!
# Error objects

Every failure that a client sees is one of a fixed catalogue of errors, with details about the case.
The catalogue is public, so its numbers never change.
-/

namespace PosvGateway

/-- The errors of the catalogue. -/
inductive ErrorCode where
  | unavailableOffline
  | nodeNotReady
  | transport
  | notFound
  | malformedNodeResponse
  | nodeRejected
  | invalidNetwork
  | invalidInput
  | notImplemented
  | unsupportedKey
  | malformedOperations
  | invalidMetadata
  | unparsableTransaction
  | invalidSignature
  | signerMismatch
  | estimationFailed
  | accountLookupFailed
  | submissionRejected
  | invalidCallParameters
  | unsupportedCall
  | unencodableOutput
  | consistency
  | sealerRecovery
  | internal
  deriving DecidableEq, Repr

namespace ErrorCode

/-- The catalogue, in the order of its numbers. -/
def all : List ErrorCode :=
  [.unavailableOffline, .nodeNotReady, .transport, .notFound, .malformedNodeResponse,
    .nodeRejected, .invalidNetwork, .invalidInput, .notImplemented, .unsupportedKey,
    .malformedOperations, .invalidMetadata, .unparsableTransaction, .invalidSignature,
    .signerMismatch, .estimationFailed, .accountLookupFailed, .submissionRejected,
    .invalidCallParameters, .unsupportedCall, .unencodableOutput, .consistency, .sealerRecovery,
    .internal]

/-- The number of an error: its place in the catalogue, from one on. -/
def number (code : ErrorCode) : Nat := all.idxOf code + 1

/-- The text of an error. -/
def text : ErrorCode → String
  | .unavailableOffline => "Endpoint unavailable offline"
  | .nodeNotReady => "Node is not ready"
  | .transport => "Unable to reach the node"
  | .notFound => "Not found"
  | .malformedNodeResponse => "Malformed node response"
  | .nodeRejected => "Node returned an error"
  | .invalidNetwork => "Invalid network identifier"
  | .invalidInput => "Invalid input"
  | .notImplemented => "Endpoint not implemented"
  | .unsupportedKey => "Unsupported public key"
  | .malformedOperations => "Malformed operations"
  | .invalidMetadata => "Invalid options or metadata"
  | .unparsableTransaction => "Unable to parse transaction"
  | .invalidSignature => "Invalid signature"
  | .signerMismatch => "Signature does not match the sender"
  | .estimationFailed => "Unable to estimate gas"
  | .accountLookupFailed => "Unable to look up account"
  | .submissionRejected => "Transaction submission rejected"
  | .invalidCallParameters => "Call parameters invalid"
  | .unsupportedCall => "Call method invalid"
  | .unencodableOutput => "Call output marshal failed"
  | .consistency => "Operation derivation inconsistent"
  | .sealerRecovery => "Unable to recover block sealer"
  | .internal => "Internal error"

/-- The same request may succeed later. -/
def isRetriable : ErrorCode → Bool
  | .nodeNotReady | .transport | .estimationFailed | .accountLookupFailed | .internal => true
  | _ => false

end ErrorCode

/-- An error object. -/
structure RosettaError where
  code : ErrorCode
  /-- What is known about the case. -/
  details : Option Json.Members := none

namespace RosettaError

/-- An error whose details are the wording of its cause. -/
def because (code : ErrorCode) (cause : String) : RosettaError where
  code := code
  details := some [("error", .string cause)]

/-- An error in JSON. -/
def toJson (e : RosettaError) : Json :=
  .ofFields
    [("code", some (.nat e.code.number)), ("message", some (.string e.code.text)),
      ("retriable", some (.bool e.code.isRetriable)), ("details", e.details.map .object)]

/-- The catalogue. -/
def catalogue : List RosettaError := ErrorCode.all.map ({ code := · })

end RosettaError

end PosvGateway
