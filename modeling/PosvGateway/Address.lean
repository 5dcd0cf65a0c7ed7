import PosvGateway.Hex
import PosvGateway.Keccak

/-!
# Addresses as text

An address is read as hexadecimal digits in either case. `Address.checksum` writes it with the case
of each letter taken from the digest of its lower-case digits, so that most misspellings show.
-/

namespace PosvGateway.Address

/-- The letters of `digits` in upper case where the digit of a digest is eight or more. -/
def applyCase : List Char → List Char → List Char
  | c :: digits, d :: digest =>
    (if 8 ≤ Hex.nibble d then c.toUpper else c) :: applyCase digits digest
  | digits, _ => digits

/-- The text of an address with its checksum in the case of its letters. -/
def checksum (address : Address) : String :=
  let digits := Hex.digits address.bytes
  let digest := keccak256 (digits.map fun c => UInt8.ofNat c.toNat)
  String.ofList ('0' :: 'x' :: applyCase digits (Hex.digits digest.bytes))

/-- Reads an address. -/
def read (text : String) : Except HexError Address := Hex.decodeOctets 20 text

end PosvGateway.Address
