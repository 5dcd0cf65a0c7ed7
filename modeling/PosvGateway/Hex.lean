import PosvGateway.Octets
import PosvGateway.Numeral.Basic
import PosvGateway.Text.Literal

/-!
# Hexadecimal text

Byte strings travel as `0x` and two lower-case digits a byte.

* `Hex.encode` writes that form;
* `Hex.decode` reads digits in either case after at most one `0x` or `0X`;
* `Hex.decodeRepeated` first drops every leading `0x`;
* `Hex.decodeOctets` reads a string of a fixed size.

Faults are found in a fixed order: an odd number of digits, a wrong size, and then the first
character that is no digit. Lengths and positions count the bytes of the text.
-/

namespace PosvGateway

/-- Why a hexadecimal text could not be read. -/
inductive HexError where
  /-- The digits do not pair up. -/
  | oddLength
  /-- The digits are too many or too few for the size wanted. -/
  | wrongLength
  /-- The byte at a position is no digit. -/
  | invalidCharacter (byte : UInt8) (position : Nat)
  deriving DecidableEq, Repr

/-- The wording of a fault; a byte is shown as the character of its number. -/
def HexError.message : HexError → String
  | .oddLength => "odd number of digits"
  | .wrongLength => "invalid string length"
  | .invalidCharacter byte position =>
    "invalid character " ++ Text.charLiteral (Char.ofNat byte.toNat) ++ " at position "
      ++ Numeral.decimal position

namespace Hex

/-! ### Writing -/

/-- The digit of a value below sixteen. -/
def digitChar (d : Nat) : Char := Nat.digitChar d

/-- The digits of a byte string, two a byte, in lower case. -/
def digits : Bytes → List Char
  | [] => []
  | b :: bytes => digitChar (b.toNat / 16) :: digitChar (b.toNat % 16) :: digits bytes

/-- `0x` and the digits of a byte string. -/
def encode (bytes : Bytes) : String := String.ofList ('0' :: 'x' :: digits bytes)

/-! ### Reading -/

/-- The text after one `0x` or `0X`, if it starts so. -/
def dropMark : List Char → List Char
  | '0' :: 'x' :: text => text
  | '0' :: 'X' :: text => text
  | text => text

/-- The text after every leading `0x`. -/
def dropMarks : List Char → List Char
  | '0' :: 'x' :: text => dropMarks text
  | text => text

/-- The number of bytes of a text. -/
def byteLength : List Char → Nat
  | [] => 0
  | c :: text => c.utf8Size + byteLength text

/-- The first byte of a character. -/
def firstByte (c : Char) : UInt8 :=
  if c.toNat < 0x80 then UInt8.ofNat c.toNat
  else if c.toNat < 0x800 then UInt8.ofNat (0xc0 + c.toNat / 0x40)
  else if c.toNat < 0x10000 then UInt8.ofNat (0xe0 + c.toNat / 0x1000)
  else UInt8.ofNat (0xf0 + c.toNat / 0x40000)

/-- The first character of `text` that is no digit, as the fault it is at `position` and on. -/
def firstFault? : List Char → Nat → Option HexError
  | [], _ => none
  | c :: text, position =>
    match Numeral.digit? 16 c with
    | some _ => firstFault? text (position + c.utf8Size)
    | none => some (.invalidCharacter (firstByte c) position)

/-- The value of a hexadecimal digit, zero for any other character. -/
def nibble (c : Char) : Nat := (Numeral.digit? 16 c).getD 0

/-- The bytes that digits spell in pairs. -/
def pairUp : List Char → Bytes
  | high :: low :: text => UInt8.ofNat (16 * nibble high + nibble low) :: pairUp text
  | _ => []

/-- The bytes of a text of digits. -/
def decodeDigits (text : List Char) : Except HexError Bytes :=
  if byteLength text % 2 = 1 then .error .oddLength
  else match firstFault? text 0 with
  | some fault => .error fault
  | none => .ok (pairUp text)

/-- Reads a byte string: digits in either case after at most one `0x` or `0X`. -/
def decode (text : String) : Except HexError Bytes := decodeDigits (dropMark text.toList)

/-- Reads a byte string after any number of `0x`, of which a last one may be `0X`. -/
def decodeRepeated (text : String) : Except HexError Bytes :=
  decodeDigits (dropMark (dropMarks text.toList))

/-- Reads a byte string of `n` bytes. -/
def decodeOctets (n : Nat) (text : String) : Except HexError (Octets n) :=
  let digits := dropMark text.toList
  if byteLength digits % 2 = 1 then .error .oddLength
  else if byteLength digits ≠ 2 * n then .error .wrongLength
  else match decodeDigits digits with
  | .error fault => .error fault
  | .ok bytes => if h : bytes.length = n then .ok ⟨bytes, h⟩ else .error .wrongLength

end Hex

/-- The full-length hexadecimal text. -/
def Octets.toHex {n : Nat} (o : Octets n) : String := Hex.encode o.bytes

end PosvGateway
