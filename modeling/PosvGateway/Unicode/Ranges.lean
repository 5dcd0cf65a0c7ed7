/-!
# Ranges of code points

A property of characters is given by the ranges of code points that have it.
-/

namespace PosvGateway.Unicode

/-- Ranges of code points, each with its first and its last one, in order. -/
abbrev Ranges := List (Nat × Nat)

/-- The character lies in one of the ranges. -/
def Ranges.covers (ranges : Ranges) (c : Char) : Bool :=
  ranges.any fun range => range.1 ≤ c.toNat && c.toNat ≤ range.2

end PosvGateway.Unicode
