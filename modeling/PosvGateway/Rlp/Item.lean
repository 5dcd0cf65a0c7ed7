import PosvGateway.Octets
import PosvGateway.Numeral.Basic

/-!
# RLP items

The ledger's binary format: an item is a byte string or a list of items behind a header with its
length. Each item has one encoding, and reading refuses any other.

* `Rlp.encodeString` and `Rlp.encodeList` write an item from its payload;
* `Rlp.readHeader` reads a header, and `Rlp.readString` a byte string from the front of a buffer.
-/

namespace PosvGateway.Rlp

/-- Why a buffer could not be read. -/
inductive Error where
  /-- The buffer ends before the item does. -/
  | inputTooShort
  /-- A number starts with a zero byte. -/
  | leadingZero
  /-- A byte below `0x80` has a header. -/
  | nonCanonicalSingleByte
  /-- A short payload has a long header. -/
  | nonCanonicalSize
  /-- A string does not have the size wanted. -/
  | unexpectedLength
  /-- A string stands where a list is wanted. -/
  | unexpectedString
  /-- A list stands where a string is wanted. -/
  | unexpectedList
  /-- A number does not fit its type. -/
  | overflow
  /-- The list does not span the buffer. -/
  | listLengthMismatch (expected got : Nat)
  /-- There are fields that were not read. -/
  | trailingFields
  deriving DecidableEq, Repr

/-- The wording of an error. -/
def Error.message : Error → String
  | .inputTooShort => "input too short"
  | .leadingZero => "leading zero"
  | .nonCanonicalSingleByte => "non-canonical single byte"
  | .nonCanonicalSize => "non-canonical size"
  | .unexpectedLength => "unexpected length"
  | .unexpectedString => "unexpected string"
  | .unexpectedList => "unexpected list"
  | .overflow => "overflow"
  | .listLengthMismatch expected got =>
    "unexpected list length (got " ++ Numeral.decimal got ++ ", expected "
      ++ Numeral.decimal expected ++ ")"
  | .trailingFields => "trailing fields in list"

/-! ### Writing -/

/-- The header of a payload of a given length; `base` is `0x80` for a string and `0xc0` for a
list. -/
def header (base : UInt8) (length : Nat) : Bytes :=
  if length < 56 then [base + UInt8.ofNat length]
  else
    let lengthBytes := Bytes.ofNat length
    (base + 55 + UInt8.ofNat lengthBytes.length) :: lengthBytes

/-- The encoding of a byte string. A byte below `0x80` is its own encoding. -/
def encodeString (payload : Bytes) : Bytes :=
  match payload with
  | [b] => if b < 0x80 then [b] else [0x81, b]
  | payload => header 0x80 payload.length ++ payload

/-- The encoding of a list from the encodings of its items, one after another. -/
def encodeList (payload : Bytes) : Bytes := header 0xc0 payload.length ++ payload

/-! ### Reading -/

/-- What a header says. -/
structure Header where
  /-- The item is a list. -/
  isList : Bool
  /-- The length of the payload. -/
  payloadLength : Nat
  deriving DecidableEq, Repr

/-- A header and the buffer behind it, if the payload is there. -/
def checkPayload (isList : Bool) (payloadLength : Nat) (rest : Bytes) :
    Except Error (Header × Bytes) :=
  if rest.length < payloadLength then .error .inputTooShort
  else .ok (⟨isList, payloadLength⟩, rest)

/-- The long form of a header: the length of the payload stands in `size` bytes. -/
def readLongHeader (isList : Bool) (size : Nat) (rest : Bytes) : Except Error (Header × Bytes) :=
  if rest.length < size then .error .inputTooShort
  else if (rest.take size).head? = some 0 then .error .leadingZero
  else
    let payloadLength := Bytes.toNat (rest.take size)
    if payloadLength < 56 then .error .nonCanonicalSize
    else checkPayload isList payloadLength (rest.drop size)

/-- The header of a short string. -/
def readShortString (length : Nat) (rest : Bytes) : Except Error (Header × Bytes) :=
  if length = 1 then
    match rest with
    | [] => .error .inputTooShort
    | b :: _ =>
      if b < 0x80 then .error .nonCanonicalSingleByte else checkPayload false length rest
  else checkPayload false length rest

/-- Reads a header from the front of a buffer. A byte below `0x80` is a payload of its own. -/
def readHeader (buffer : Bytes) : Except Error (Header × Bytes) :=
  match buffer with
  | [] => .error .inputTooShort
  | b :: rest =>
    if b < 0x80 then .ok (⟨false, 1⟩, buffer)
    else if b < 0xb8 then readShortString (b.toNat - 0x80) rest
    else if b < 0xc0 then readLongHeader false (b.toNat - 0xb7) rest
    else if b < 0xf8 then checkPayload true (b.toNat - 0xc0) rest
    else readLongHeader true (b.toNat - 0xf7) rest

/-- Reads a byte string from the front of a buffer; the second component is what follows it. -/
def readString (buffer : Bytes) : Except Error (Bytes × Bytes) :=
  match readHeader buffer with
  | .error e => .error e
  | .ok (header, rest) =>
    if header.isList then .error .unexpectedList
    else .ok (rest.take header.payloadLength, rest.drop header.payloadLength)

/-- The payload of the list that spans a buffer. -/
def openList (buffer : Bytes) : Except Error Bytes :=
  match readHeader buffer with
  | .error e => .error e
  | .ok (header, rest) =>
    if !header.isList then .error .unexpectedString
    else if rest.length ≠ header.payloadLength then
      .error (.listLengthMismatch header.payloadLength rest.length)
    else .ok rest

end PosvGateway.Rlp
