import PosvGateway.Numeral.Basic

/-!
# Quantities

The node writes its 64-bit numbers as `0x` and hexadecimal digits; plain decimal digits are read
as well. `Quantity.write` and `Quantity.read` are the two directions.
-/

namespace PosvGateway.Quantity

/-- A quantity as the node writes it. -/
def write (n : UInt64) : String := Numeral.hex n.toNat

/-- Reads a quantity: after `0x` hexadecimal digits, of which there may be none, and decimal
digits otherwise. -/
def read (text : String) : Except Numeral.Fault UInt64 :=
  match text.toList with
  | ['0', 'x'] => .ok 0
  | '0' :: 'x' :: digits => (Numeral.readUnsigned 16 (UInt64.size - 1) digits).map UInt64.ofNat
  | digits => (Numeral.readUnsigned 10 (UInt64.size - 1) digits).map UInt64.ofNat

end PosvGateway.Quantity
