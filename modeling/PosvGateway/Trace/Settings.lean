import PosvGateway.Json.Value

/-!
# Trace settings

How the node is asked for traces.
-/

namespace PosvGateway

/-- How traces are asked for. -/
structure TraceSettings where
  /-- The name or the source text of a tracer. -/
  tracer : String := "callTracer"
  /-- The time the tracer may take. -/
  timeout : String := "120s"
  /-- The greatest number of traces that may be asked for at once. -/
  concurrency : Nat := 16
  /-- All traces of a block are asked for in one call. -/
  byBlock : Bool := false
  deriving DecidableEq, Repr

/-- The parameter that tells the node about the tracer. -/
def TraceSettings.tracerParam (settings : TraceSettings) : Json :=
  .mkObject [("tracer", .string settings.tracer), ("timeout", .string settings.timeout)]

end PosvGateway
