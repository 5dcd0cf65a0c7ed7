import PosvGateway.Json.Record
import PosvGateway.Node.Dialogue
import PosvGateway.Url.Basic

/-!
# JSON-RPC

The node is reached by JSON-RPC over HTTP. `JsonRpc.request` and `JsonRpc.batchRequest` write what
is posted, and `JsonRpc.reply` and `JsonRpc.batchReply` read what comes back.

A reply to a batch is matched by its number. A call whose reply is missing fails alone; whatever
else is wrong with the response fails the batch as a whole. A result that is null means that the
node has no such thing.
-/

namespace PosvGateway.JsonRpc

/-! ### Requests -/

/-- A call under its number. -/
def request (id : Nat) (method : String) (params : List Json) : Json :=
  .mkObject
    [("jsonrpc", .string "2.0"), ("id", .nat id), ("method", .string method),
      ("params", .array params)]

/-- Several calls, numbered from `first` on. -/
def batchRequest (first : Nat) (calls : List (String × List Json)) : Json :=
  .array ((calls.zipIdx first).map fun ((method, params), id) => request id method params)

/-! ### Responses -/

/-- What came back over HTTP. -/
structure HttpReply where
  status : Nat
  body : String
  deriving DecidableEq, Repr

/-- The text of the body, if something came back and its status is one of success. -/
def successBody (http : Option HttpReply) : Except NodeError String :=
  match http with
  | none => .error (.transport "connection closed before a response was received")
  | some http =>
    if 200 ≤ http.status ∧ http.status < 300 then .ok http.body
    else .error (.transport ("HTTP error " ++ Numeral.decimal http.status))

/-- The number of a reply. -/
inductive ReplyId where
  | absent
  | number (n : Nat)
  | text (s : String)
  deriving DecidableEq, Repr

/-- A reply: its number, and the text of the result or the node's error. -/
structure Message where
  id : ReplyId
  payload : Except NodeError String

/-- Reads the number of a reply. -/
def readId (text : String) : Except Misfit ReplyId :=
  let number : Reader ReplyId := fun depth doc =>
    match doc with
    | .number _ => (Reader.natural UInt64.size depth doc).map .number
    | doc => (Reader.text depth doc).map .text
  ((Reader.option number).run text).map (·.getD .absent)

/-- Reads the error that a node reports. Its data are of no interest. -/
def readError (text : String) : Except Misfit NodeError :=
  ((fun code message _ => NodeError.remote code message) <$> .required "code" Reader.int64
    <*> .defaulted "message" "" Reader.text <*> .defaulted "data" () (fun _ _ => .ok ()) :
    Fields NodeError).keyedRecord.run text

/-- The texts of the members of a reply. -/
structure MessageTexts where
  id : Option String
  result : Option String
  error : Option String

/-- Reads the members of a reply, which are not opened. -/
def MessageTexts.reader : Reader MessageTexts :=
  let text (name : String) : Fields (Option String) :=
    .defaulted name none fun depth doc => (Reader.unopened depth doc).map some
  (MessageTexts.mk <$> text "id" <*> text "result" <*> text "error").keyedRecord

/-- Reads a reply from the texts of its members: it has either a result or an error. -/
def MessageTexts.read (texts : MessageTexts) : Except Misfit Message := do
  let id ← match texts.id with
    | some text => readId text
    | none => .ok .absent
  match texts.result, texts.error with
  | some result, none => return ⟨id, .ok result⟩
  | none, some error => return ⟨id, .error (← readError error)⟩
  | _, _ => throw .shape

/-- A body that is no JSON-RPC reply. -/
def unreadable (misfit : Misfit) : NodeError :=
  .transport ("response could not be read: " ++ misfit.message)

/-- Reads a body of one reply. -/
def readOne (body : String) : Except Misfit Message := do
  (← MessageTexts.reader.runTo 1 body).read

/-- Reads a body of several replies. -/
def readMany (body : String) : Except Misfit (List Message) := do
  (← (Reader.list MessageTexts.reader).runTo 2 body).mapM MessageTexts.read

/-- A null result means that there is no such thing. -/
def refuseNull (method : String) (result : String) : Reply :=
  match Reader.unopened.runTo 0 result with
  | .ok "null" => .error (.notFound method)
  | _ => .ok result

/-- What a reply says about a call of a method. -/
def Message.reply (message : Message) (method : String) : Reply :=
  message.payload.bind (refuseNull method)

/-- The reply to a call. -/
def reply (method : String) (http : Option HttpReply) : Reply := do
  let message ← Except.mapError unreadable (readOne (← successBody http))
  message.reply method

/-- The replies to calls of some methods, numbered from `first` on. -/
def matchReplies (messages : List Message) (first : Nat) (methods : List String) : List Reply :=
  (methods.zipIdx first).map fun (method, id) =>
    match messages.find? fun message => message.id = .number id with
    | some message => message.reply method
    | none => .error (.transport "missing response in a batch")

/-- The replies to a batch. A body of one reply answers at most one call. -/
def batchReply (first : Nat) (methods : List String) (http : Option HttpReply) : BatchReply := do
  let body ← successBody http
  let messages ← match readMany body with
    | .ok messages => .ok messages
    | .error misfit =>
      match readOne body with
      | .ok message => .ok [message]
      | .error _ => .error (unreadable misfit)
  return matchReplies messages first methods

/-! ### Connection -/

/-- Reads the URL of a node. -/
def connect (url : String) : Except NodeError Url :=
  match Url.parse url with
  | .ok url => .ok url
  | .error e => .error (.transport ("invalid node url: " ++ e.message))

end PosvGateway.JsonRpc
