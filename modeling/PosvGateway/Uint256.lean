/-!
# Words of 256 bits

The ledger counts in words of 256 bits. A `Uint256` is an amount without a sign; its arithmetic
wraps. An `Int256` is a balance: the same word read in two's complement.

* `Uint256.saturatingMul` is the product, or the greatest word where that does not fit;
* `Int256.ofUint256?` reads an amount as a balance, which needs it to be below `2 ^ 255`;
* `Int256.toInt` is the balance as an integer.
-/

namespace PosvGateway

/-- An amount: a word of 256 bits without a sign. -/
abbrev Uint256 := BitVec 256

namespace Uint256

/-- The number of amounts, `2 ^ 256`. -/
def size : Nat := 0x10000000000000000000000000000000000000000000000000000000000000000

/-- The greatest amount. -/
def max : Uint256 := BitVec.allOnes 256

/-- `n` as an amount, if it is below `2 ^ 256`. -/
def ofNat? (n : Nat) : Option Uint256 :=
  if n < size then some (BitVec.ofNat 256 n) else none

/-- The product, or the greatest amount if the product does not fit. -/
def saturatingMul (a b : Uint256) : Uint256 := (ofNat? (a.toNat * b.toNat)).getD max

end Uint256

/-- A balance: a word of 256 bits in two's complement. -/
structure Int256 where
  /-- The two's complement bits. -/
  bits : BitVec 256
  deriving DecidableEq

namespace Int256

/-- What a balance stays below, `2 ^ 255`. -/
def bound : Nat := 0x8000000000000000000000000000000000000000000000000000000000000000

/-- The balance as an integer. -/
def toInt (a : Int256) : Int := a.bits.toInt

/-- `z` as a balance, if it is at least `-2 ^ 255` and below `2 ^ 255`. -/
def ofInt? (z : Int) : Option Int256 :=
  if -bound ≤ z ∧ z < bound then some ⟨BitVec.ofInt 256 z⟩ else none

/-- An amount as a balance, if it is below `2 ^ 255`. -/
def ofUint256? (v : Uint256) : Option Int256 :=
  if v.toNat < bound then some ⟨v⟩ else none

/-- The empty balance. -/
def zero : Int256 := ⟨0⟩

instance : Inhabited Int256 := ⟨zero⟩

/-- Sums wrap at 256 bits. -/
instance : Add Int256 := ⟨fun a b => ⟨a.bits + b.bits⟩⟩

/-- Differences wrap at 256 bits. -/
instance : Sub Int256 := ⟨fun a b => ⟨a.bits - b.bits⟩⟩

/-- The balance is zero. -/
def isZero (a : Int256) : Bool := a.bits == 0

/-- The balance is below zero. -/
def isNegative (a : Int256) : Bool := a.bits.msb

/-- The balance is above zero. -/
def isPositive (a : Int256) : Bool := !a.isZero && !a.isNegative

/-- The distance of the balance from zero. -/
def magnitude (a : Int256) : Uint256 := if a.isNegative then -a.bits else a.bits

end Int256

end PosvGateway
