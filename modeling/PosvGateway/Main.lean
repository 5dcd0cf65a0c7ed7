import PosvGateway.Http.Server
import PosvGateway.Node.JsonRpc

/-!
# Command line

The gateway as a filter between two sides that speak lines. Each line of the standard input is a
request, an object with the members `path` and `body`; the response is written as one line. Where
the node has to be asked, the JSON-RPC request is written as a line and its response is read as the
next one. The settings are read from the environment.
-/

namespace PosvGateway.Main

/-- Where lines come from and go to. -/
structure Lines where
  input : IO.FS.Stream
  output : IO.FS.Stream

/-- Writes a line. -/
def Lines.write (lines : Lines) (line : String) : IO Unit := do
  lines.output.putStrLn line
  lines.output.flush

/-- Posts a request to the node and waits for the response. -/
def Lines.post (lines : Lines) (request : Json) : IO (Option JsonRpc.HttpReply) := do
  lines.write request.render
  let body ← lines.input.getLine
  return if body.isEmpty then none else some ⟨200, body⟩

/-- Carries a dialogue out with the node behind some lines. -/
def carryOut {α : Type} (lines : Lines) : Dialogue α → IO α
  | .done a => return a
  | .ask call next => do
    let http ← lines.post (JsonRpc.request 0 call.method.name call.params)
    carryOut lines (next (JsonRpc.reply call.method.name http))
  | .askAll calls next => do
    let named := calls.map fun call => (call.method.name, call.params)
    let http ← lines.post (JsonRpc.batchRequest 0 named)
    carryOut lines (next (JsonRpc.batchReply 0 (named.map Prod.fst) http))

/-- The request of a line. -/
def readLine (line : String) : Except Misfit Http.Request :=
  let fields : Fields Http.Request :=
    (fun path body => ⟨"POST", path, some "application/json", body⟩)
      <$> .required "path" Reader.text <*> .required "body" Reader.text
  fields.record.run line

/-- A response as a line. -/
def writeLine (response : Http.Response) : String :=
  (Json.mkObject [("status", .nat response.status), ("body", response.body.getD .null)]).render

/-- Serves line after line until the input ends. -/
partial def serve (lines : Lines) (gateway : Gateway) (memory : Memory) : IO Unit := do
  let line ← lines.input.getLine
  if line.isEmpty then return
  match readLine line with
  | .error _ =>
    lines.write (writeLine { status := 400 })
    serve lines gateway memory
  | .ok request =>
    let (response, memory) ← carryOut lines (Http.respond gateway memory request)
    lines.write (writeLine response)
    serve lines gateway memory

/-- The names of the variables that are set, with their values. -/
def environment : IO (List (String × String)) := do
  let mut found := []
  for name in Settings.names do
    if let some value ← IO.getEnv name then found := (name, value) :: found
  return found

end PosvGateway.Main

/-- Reads the settings and serves until the input ends. -/
def main : IO UInt32 := do
  let values ← PosvGateway.Main.environment
  match PosvGateway.Settings.read fun name => values.lookup name with
  | .error e =>
    IO.eprintln ("configuration error: " ++ e.message)
    return 1
  | .ok settings =>
    let lines : PosvGateway.Main.Lines := ⟨← IO.getStdin, ← IO.getStdout⟩
    PosvGateway.Main.serve lines (.ofSettings settings) {}
    return 0
