import PosvGateway.Rosetta.Leg
import PosvGateway.Trace.Frame

/-!
# Operations of a trace

The operations of a transaction follow from the frames of its trace, in the order of execution.

* `FlatFrame.legs` are the legs of one frame: a debit of the caller and a credit of the called
  account. A call that moves nothing has no legs; a frame that names nobody, or an account that
  destroys itself in its own favour, has no credit. Whether the frame was reverted shows in the
  status of its legs.
* `Destroyed` keeps what the accounts that destroyed themselves have received since. An account
  enters it when it destroys itself, and leaves it when it is created again.
* `operationsOfFrames` numbers the legs of all frames, and then those of the destroyed accounts that
  still hold something: what they hold is lost.
-/

namespace PosvGateway

/-- Why no operations could be derived. -/
inductive DerivationError where
  /-- A destroyed account has sent more than it received. -/
  | negativeDestroyedBalance (account : Address) (balance : Int256)
  /-- A value is no balance. -/
  | valueOverflow (value : Uint256)
  /-- A text could not be read. -/
  | decode (detail : String)
  deriving DecidableEq

/-- The wording of an error. -/
def DerivationError.message : DerivationError → String
  | .negativeDestroyedBalance account balance =>
    "negative balance for destroyed account " ++ account.checksum ++ ": "
      ++ Numeral.signedDecimal balance.toInt
  | .valueOverflow value =>
    "call value " ++ Numeral.decimal value.toNat ++ " does not fit a signed balance"
  | .decode detail => "invalid trace: " ++ detail

namespace FlatFrame

/-! ### Frames -/

/-- The frame moves value. -/
def moves (call : FlatFrame) : Bool := call.value ≠ 0 && !call.revert

/-- The account destroys itself. -/
def destroys (call : FlatFrame) : Bool := call.kind = OperationType.selfDestruct

/-- The frame creates an account. -/
def creates (call : FlatFrame) : Bool := OperationType.creations.contains call.kind

/-- The account destroys itself in its own favour, so that nothing moves. -/
def destroysOntoItself (call : FlatFrame) : Bool :=
  call.destroys && call.recipient = some call.sender

/-- The frame shows in the operations: it moves something, or is more than a call. -/
def shows (call : FlatFrame) : Bool :=
  !(call.value = 0 && OperationType.calls.contains call.kind)

/-- The account that receives the value. -/
def receiver (call : FlatFrame) : Option Address :=
  if call.destroysOntoItself then none else call.recipient

/-- The status of the legs. -/
def status (call : FlatFrame) : String :=
  if call.revert then OperationStatus.fail else OperationStatus.success

/-- What the legs tell beside their amount: the error of a reverted frame. -/
def metadata (call : FlatFrame) : Option Json.Members :=
  if call.revert then call.error.map fun error => [("error", .string error)] else none

/-- The legs of a frame. -/
def legs (call : FlatFrame) : List Leg :=
  if call.shows then
    let leg (account : Address) (amount : Amount) (paired : Bool) : Leg :=
      { kind := call.kind, status := some call.status, account,
        amount := if call.value = 0 then none else some amount, metadata := call.metadata, paired }
    leg call.sender (.debit call.value) false ::
      match call.receiver with
      | some receiver => [leg receiver (.credit call.value) true]
      | none => []
  else []

end FlatFrame

/-! ### Destroyed accounts -/

/-- What destroyed accounts have received since, less what they sent. -/
abbrev Destroyed := OrderedMap Address Int256

namespace Destroyed

/-- The accounts after a frame. Value leaves the caller first; then the caller may be destroyed,
then the called account created, and then the value arrives. -/
def apply (destroyed : Destroyed) (call : FlatFrame) : Destroyed :=
  let value : Int256 := ⟨call.value⟩
  let destroyed :=
    if call.moves then destroyed.adjust call.sender (· - value) else destroyed
  let destroyed := if call.destroys then destroyed.insert call.sender .zero else destroyed
  match call.receiver with
  | none => destroyed
  | some receiver =>
    let destroyed := if call.creates then destroyed.erase receiver else destroyed
    if call.moves then destroyed.adjust receiver (· + value) else destroyed

/-- What is lost with the accounts, in their order; none of them may have sent more than it
received. -/
def remains : Destroyed → Except DerivationError (List (Address × Uint256))
  | [] => .ok []
  | (account, balance) :: destroyed =>
    if balance.isZero then remains destroyed
    else if balance.isNegative then .error (.negativeDestroyedBalance account balance)
    else (remains destroyed).map ((account, balance.magnitude) :: ·)

/-- The leg of what is lost with an account. -/
def leg (account : Address) (value : Uint256) : Leg where
  kind := OperationType.destruct
  status := some OperationStatus.success
  account := account
  amount := some (.debit value)

end Destroyed

/-! ### Transactions -/

/-- The first value that is no balance. -/
def oversized? (calls : List FlatFrame) : Option Uint256 :=
  (calls.find? fun call => decide (Int256.bound ≤ call.value.toNat)).map (·.value)

/-- The operations of a list of frames, numbered from `start` on. -/
def operationsOfFrames (start : Int) (calls : List FlatFrame) :
    Except DerivationError (List Operation) :=
  match oversized? calls with
  | some value => .error (.valueOverflow value)
  | none =>
    match (calls.foldl Destroyed.apply []).remains with
    | .error e => .error e
    | .ok remains =>
      .ok (Leg.number start
        (calls.flatMap FlatFrame.legs ++ remains.map fun (account, value) =>
          Destroyed.leg account value))

end PosvGateway
