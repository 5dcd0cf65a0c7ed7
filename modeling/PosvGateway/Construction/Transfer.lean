import PosvGateway.Construction.Error
import PosvGateway.Rosetta.Leg

/-!
# Transfers

A transfer moves the native currency from one account to another. In Rosetta terms it is a debit
followed by a credit of the same amount, both of type `CALL`.

* `Transfer.operations` writes those two, and `Transfer.ofOperations` reads them.
-/

namespace PosvGateway

/-- A movement of the native currency. -/
structure Transfer where
  sender : Address
  recipient : Address
  value : Uint256
  deriving DecidableEq

namespace Transfer

/-- The operations of a movement that has no status yet; without a recipient there is only the
debit. -/
def operations (sender : Address) (recipient : Option Address) (value : Uint256) :
    List Operation :=
  Leg.number 0 (Leg.movement OperationType.call none sender recipient value)

/-- An operation may be part of a transfer: it is a call, and an amount it has is in the native
currency. -/
def checkPart (op : Operation) : Except ConstructionError Unit :=
  if op.kind ≠ OperationType.call then
    .error (.malformedOperations ("unsupported operation type " ++ op.kind))
  else match op.amount with
  | some amount =>
    if amount.currency = .native then .ok ()
    else .error (.malformedOperations ("unsupported currency " ++ amount.currency.symbol))
  | none => .ok ()

/-- Reads an address; `what` names it in the error. -/
def readAddress (what text : String) : Except ConstructionError Address :=
  match Address.read text with
  | .ok address => .ok address
  | .error e => .error (.malformedOperations (what ++ " " ++ text ++ ": " ++ e.message))

/-- The account of an operation. -/
def account (op : Operation) : Except ConstructionError Address :=
  match op.account with
  | some account => readAddress "account" account.address
  | none =>
    .error (.malformedOperations
      ("operation " ++ Numeral.signedDecimal op.index ++ " has no account"))

/-- The amount of an operation; `what` names it in the error. -/
def amount (what : String) (op : Operation) : Except ConstructionError Int256 :=
  match op.change? with
  | some value => .ok value
  | none => .error (.malformedOperations ("unparseable " ++ what ++ " amount"))

/-- One amount takes what the other gives. -/
def balanced (debited credited : Int256) : Bool :=
  !debited.isPositive && !credited.isNegative && (debited + credited).isZero

/-- Reads the transfer that a debit and a credit describe. -/
def ofOperations (ops : List Operation) : Except ConstructionError Transfer :=
  match ops with
  | [debit, credit] => do
    checkPart debit
    checkPart credit
    let debited ← amount "debit" debit
    let credited ← amount "credit" credit
    if balanced debited credited then
      let sender ← account debit
      let recipient ← account credit
      return { sender, recipient, value := credited.bits }
    else
      throw (.malformedOperations
        "operations must debit the sender and credit the recipient the same amount")
  | ops =>
    .error (.malformedOperations ("expected 2 operations, got " ++ Numeral.decimal ops.length))

end Transfer

end PosvGateway
