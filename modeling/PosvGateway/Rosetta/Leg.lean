import PosvGateway.Rosetta.Operation

/-!
# Legs

A movement of value has two legs, the debit of one account and the credit of another. A `Leg` is an
operation without its number. `Leg.number` numbers the legs of a transaction without gaps and links
every paired leg to the one before it.

* `Leg.movement` are the legs of a plain movement, of which the second may be missing.
-/

namespace PosvGateway

/-- An operation without its number. -/
structure Leg where
  kind : String
  status : Option String
  account : Address
  amount : Option Amount
  metadata : Option Json.Members := none
  /-- The leg belongs to the one before it. -/
  paired : Bool := false

namespace Leg

/-- The operation at a place. -/
def toOperation (leg : Leg) (index : Int) : Operation where
  index := index
  related := if leg.paired then some [index - 1] else none
  kind := leg.kind
  status := leg.status
  account := some (.ofAddress leg.account)
  amount := leg.amount
  metadata := leg.metadata

/-- The operations of a list of legs, numbered from `start` on. -/
def number (start : Int) : List Leg → List Operation
  | [] => []
  | leg :: legs => leg.toOperation start :: number (start + 1) legs

/-- The debit of a sender and, where there is a recipient, its credit. -/
def movement (kind : String) (status : Option String) (sender : Address)
    (recipient : Option Address) (value : Uint256) : List Leg :=
  { kind, status, account := sender, amount := some (.debit value) } ::
    match recipient with
    | some recipient =>
      [{ kind, status, account := recipient, amount := some (.credit value), paired := true }]
    | none => []

end Leg

end PosvGateway
