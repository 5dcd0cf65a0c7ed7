import PosvGateway.Gateway.Service
import PosvGateway.Http.MediaType

/-!
# The gateway over HTTP

Requests are posted as JSON to the path of an endpoint. What does not get as far as the gateway is
answered with a status alone: 404 for another path, 405 for another method, 415 for another content
type, 413 for a body that is too long, 400 for a body that is no JSON and 422 for JSON of another
shape. The gateway's answers have the status 200, its errors 500.
-/

namespace PosvGateway.Http

/-- A request. -/
structure Request where
  method : String
  /-- The path, with a scheme and an authority in front of it or without; a query after a question
  mark is ignored. -/
  target : String
  contentType : Option String
  body : String
  deriving DecidableEq, Repr

/-- A response. -/
structure Response where
  status : Nat
  /-- The body, if it is JSON. -/
  body : Option Json := none

/-- The greatest length of a body, in bytes. -/
def bodyLimit : Nat := 2097152

/-- A character of a scheme. -/
def isSchemeChar (c : Char) : Bool := c.isAlphanum || c = '+' || c = '-' || c = '.'

/-- A target without the scheme and the authority in front of its path, if it has them. -/
def withoutAuthority (target : List Char) : List Char :=
  match target.dropWhile isSchemeChar with
  | ':' :: '/' :: '/' :: rest => rest.dropWhile fun c => !(c = '/' || c = '?' || c = '#')
  | _ => target

/-- The path of a target, a slash where it is empty. -/
def path (target : String) : String :=
  match (withoutAuthority target.toList).takeWhile fun c => !(c = '?' || c = '#') with
  | [] => "/"
  | path => String.ofList path

/-- The content type is one of JSON. -/
def sendsJson (request : Request) : Bool :=
  match request.contentType.bind MediaType.read? with
  | some m => m.isJson
  | none => false

/-- Reads a request to an endpoint; the error is the status that refuses it. -/
def readBody (endpoint : Endpoint) (request : Request) : Except Nat PosvGateway.Request :=
  if request.method ≠ "POST" then .error 405
  else if !sendsJson request then .error 415
  else if bodyLimit < request.body.utf8ByteSize then .error 413
  else match Reader.run endpoint.reader request.body with
  | .ok r => .ok r
  | .error .grammar => .error 400
  | .error _ => .error 422

/-- Reads a request. -/
def readRequest (request : Request) : Except Nat PosvGateway.Request :=
  if request.method = "OPTIONS" then .error 200
  else match Endpoint.ofPath? (path request.target) with
  | none => .error 404
  | some endpoint => readBody endpoint request

/-- The response to an answer of the gateway. -/
def Response.ofAnswer : Except RosettaError Json → Response
  | .ok body => ⟨200, some body⟩
  | .error e => ⟨500, some e.toJson⟩

/-- Responds to a request. -/
def respond (g : Gateway) (memory : Memory) (request : Request) :
    Dialogue (Response × Memory) :=
  match readRequest request with
  | .error status => .done ({ status }, memory)
  | .ok request => Dialogue.bind (g.serve memory request) fun (answer, memory) =>
    .done (.ofAnswer answer, memory)

end PosvGateway.Http
