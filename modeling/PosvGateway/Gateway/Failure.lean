import PosvGateway.Construction.Error
import PosvGateway.Rosetta.Error

/-!
# Failures as error objects

The error of the catalogue under which a client sees the failure of a query or of a step of the
construction. The wording of the failure goes into the details; of an error that the node itself
reports they hold its number and its text.
-/

namespace PosvGateway

namespace QueryError

/-- The error of the catalogue for a failed query. -/
def code : QueryError → ErrorCode
  | .node (.transport _) => .transport
  | .node (.notFound _) => .notFound
  | .node (.decode _) => .malformedNodeResponse
  | .node (.remote ..) => .nodeRejected
  | .recovery _ => .sealerRecovery
  | .trace _ => .consistency
  | .nodeNotReady _ => .nodeNotReady
  | .invalidInput _ => .invalidInput
  | .invalidCallParameters _ => .invalidCallParameters
  | .unsupportedCall _ => .unsupportedCall
  | .unencodableOutput _ => .unencodableOutput
  | .task _ => .internal

/-- A failed query as an error object. -/
def toRosetta (e : QueryError) : RosettaError :=
  match e with
  | .node (.remote number text) =>
    { code := e.code, details := some [("code", .int number), ("message", .string text)] }
  | e => .because e.code e.message

end QueryError

namespace ConstructionError

/-- The error of the catalogue for a failed step of the construction. -/
def code : ConstructionError → ErrorCode
  | .unsupportedKey _ => .unsupportedKey
  | .malformedOperations _ => .malformedOperations
  | .invalidMetadata _ => .invalidMetadata
  | .invalidTransaction _ => .unparsableTransaction
  | .signatureCount _ | .signatureLength _ | .recovery _ => .invalidSignature
  | .invalidNetwork _ => .invalidNetwork
  | .signerMismatch .. => .signerMismatch
  | .estimationFailed _ => .estimationFailed
  | .accountLookupFailed _ => .accountLookupFailed
  | .submissionRejected _ => .submissionRejected

/-- A failed step as an error object. -/
def toRosetta (e : ConstructionError) : RosettaError := .because e.code e.message

end ConstructionError

end PosvGateway
