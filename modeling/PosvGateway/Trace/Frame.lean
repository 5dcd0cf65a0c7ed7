import PosvGateway.Json.Scalars

/-!
# Call frames

The trace of a transaction is a tree of call frames. `CallFrame` is a frame with the frames it
called, and `FlatFrame` a frame on its own, with its fate decided.

`CallFrame.flatten` lists a tree in the order of execution. A frame that was reverted, or carries an
error, drags the frames below it along: they are reverted too, and take the error of the nearest
frame above them that carries one, unless they carry one of their own.
-/

namespace PosvGateway

/-- A frame of a trace. -/
structure CallFrame where
  kind : String
  /-- The calling account. -/
  sender : Address
  /-- The called account. -/
  recipient : Option Address
  value : Option Uint256
  gasUsed : Option Uint256
  revert : Bool
  error : Option String
  /-- The frames this one called. -/
  calls : List CallFrame

/-- A frame without the frames it called. -/
structure FlatFrame where
  /-- The kind, in upper case. -/
  kind : String
  sender : Address
  recipient : Option Address
  value : Uint256
  gasUsed : Uint256
  /-- The frame was reverted, by itself or by one above it. -/
  revert : Bool
  error : Option String
  deriving DecidableEq

namespace CallFrame

/-! ### Reading -/

/-- A recipient: a text, of which the empty one and a bare `0x` name nobody. -/
def recipientReader : Reader (Option Address) := fun depth doc =>
  match Reader.option Reader.text depth doc with
  | .error e => .error e
  | .ok none | .ok (some "") | .ok (some "0x") => .ok none
  | .ok (some s) => (Address.read s).toOption.elim (.error .shape) fun a => .ok (some a)

/-- The members of a frame in JSON, whose inner frames `inner` reads. -/
def fieldsWith (inner : Reader CallFrame) : Fields CallFrame :=
  CallFrame.mk <$> .required "type" Reader.text
    <*> .required "from" (Reader.octets 20)
    <*> .defaulted "to" none recipientReader
    <*> .optional "value" Reader.uint256
    <*> .optional "gasUsed" Reader.uint256
    <*> .defaulted "revert" false Reader.bool
    <*> .optional "error" Reader.text
    <*> .defaulted "calls" [] (Reader.list inner)

/-- Reads a tree of at most so many levels. -/
def readerTo : Nat → Reader CallFrame
  | 0 => fun _ _ => .error .grammar
  | levels + 1 => (fieldsWith (readerTo levels)).record

/-- Reads a tree. Each level takes two containers, so `maxDepth` levels are never reached. -/
def reader : Reader CallFrame := readerTo maxDepth

/-! ### Flattening -/

/-- A frame by itself, below frames of which the nearest reverted one passes on `inherited`. -/
def flat (frame : CallFrame) (inherited : Option (Option String)) : FlatFrame where
  kind := frame.kind.map Char.toUpper
  sender := frame.sender
  recipient := frame.recipient
  value := frame.value.getD 0
  gasUsed := frame.gasUsed.getD 0
  revert := inherited.isSome || frame.revert || frame.error.isSome
  error := frame.error.or (inherited.getD none)

mutual

/-- The frames of a tree in the order of execution. `inherited` is the error, if any, of the
reverted frame above it, if there is one. -/
def flattenUnder (inherited : Option (Option String)) : CallFrame → List FlatFrame
  | ⟨kind, sender, recipient, value, gasUsed, revert, error, calls⟩ =>
    let call := flat ⟨kind, sender, recipient, value, gasUsed, revert, error, []⟩ inherited
    call :: flattenAll (if call.revert then some call.error else none) calls

/-- The frames of several trees, one tree after another. -/
def flattenAll (inherited : Option (Option String)) : List CallFrame → List FlatFrame
  | [] => []
  | frame :: frames => flattenUnder inherited frame ++ flattenAll inherited frames

end

/-- The frames of a tree in the order of execution. -/
def flatten (root : CallFrame) : List FlatFrame := flattenUnder none root

end CallFrame

end PosvGateway
