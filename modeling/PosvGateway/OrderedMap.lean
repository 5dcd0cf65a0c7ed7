/-!
# Maps in key order

A finite map that is listed, compared and printed in the order of its keys: the list of its
entries, kept in ascending order by every operation here. Metadata objects, the balances of
destroyed accounts and reward splits are such maps.
-/

namespace PosvGateway

/-- A map as the list of its entries, in ascending order of their keys. -/
abbrev OrderedMap (κ : Type) (ν : Type) := List (κ × ν)

namespace OrderedMap

variable {κ ν : Type} [Ord κ]

/-- The value of a key. -/
def find? (key : κ) : OrderedMap κ ν → Option ν
  | [] => none
  | (k, v) :: rest => if compare key k = .eq then some v else find? key rest

/-- The map with a key's value set. -/
def insert (key : κ) (value : ν) : OrderedMap κ ν → OrderedMap κ ν
  | [] => [(key, value)]
  | (k, v) :: rest =>
    match compare key k with
    | .lt => (key, value) :: (k, v) :: rest
    | .eq => (key, value) :: rest
    | .gt => (k, v) :: insert key value rest

/-- The map without a key. -/
def erase (key : κ) : OrderedMap κ ν → OrderedMap κ ν
  | [] => []
  | (k, v) :: rest => if compare key k = .eq then rest else (k, v) :: erase key rest

/-- The map with a key's value changed, where it has one. -/
def adjust (key : κ) (f : ν → ν) : OrderedMap κ ν → OrderedMap κ ν
  | [] => []
  | (k, v) :: rest =>
    if compare key k = .eq then (k, f v) :: rest else (k, v) :: adjust key f rest

/-- The map of a list of entries, of which a later one replaces an earlier one of its key. -/
def ofList (entries : List (κ × ν)) : OrderedMap κ ν :=
  entries.foldl (fun map entry => insert entry.1 entry.2 map) []

end OrderedMap

end PosvGateway
