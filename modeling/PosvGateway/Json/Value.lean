import PosvGateway.OrderedMap
import PosvGateway.Decimal.Binary64

/-!
# JSON values

`Json` is a JSON value whose objects list their members in key order. Integers that fit 64 bits,
with or without a sign, are kept exactly; every other number is a double.
-/

namespace PosvGateway

/-- A JSON number. -/
inductive JsonNumber where
  /-- An integer from `-2 ^ 63` to `2 ^ 64 - 1`. -/
  | integer (n : Int)
  /-- Any other number. -/
  | real (x : Binary64)
  deriving DecidableEq, Repr

/-- A JSON value. -/
inductive Json where
  | null
  | bool (b : Bool)
  | number (n : JsonNumber)
  | string (s : String)
  | array (items : List Json)
  /-- The members in ascending order of their keys. -/
  | object (members : List (String × Json))
  deriving Repr, BEq, Inhabited

namespace Json

/-- The members of an object: a map in key order. -/
abbrev Members := OrderedMap String Json

/-- An integer. -/
def int (n : Int) : Json := .number (.integer n)

/-- A number without a sign. -/
def nat (n : Nat) : Json := .int n

/-- An object with the given members. -/
def mkObject (members : List (String × Json)) : Json := .object (OrderedMap.ofList members)

/-- An object of the members that are set. -/
def ofFields (fields : List (String × Option Json)) : Json :=
  mkObject (fields.filterMap fun field => field.2.map (field.1, ·))

end Json

end PosvGateway
