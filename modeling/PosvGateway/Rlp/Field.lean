import PosvGateway.Rlp.Item
import PosvGateway.Uint256

/-!
# Typed fields

The structures of the ledger are RLP lists with a fixed sequence of typed fields. `Kind` is the type
of a field, `Kind.Value` the values it takes, and `Row kinds` a value for each of a sequence of
kinds.

* `Kind.encode` writes a field and `Kind.read` reads one from the front of a buffer;
* `encodeRow` writes the list of a row, and `decodeRow` reads it back: the list must span the
  buffer, hold every field and nothing else.
-/

namespace PosvGateway.Rlp

/-- The type of a field. -/
inductive Kind where
  /-- A number of 8 bits. -/
  | uint8
  /-- A number of 64 bits. -/
  | uint64
  /-- A number of 256 bits. -/
  | uint256
  /-- A byte string of a fixed size. -/
  | octets (size : Nat)
  /-- A byte string. -/
  | bytes
  /-- A byte string of a fixed size, or the empty one. -/
  | optional (size : Nat)
  deriving DecidableEq, Repr

/-- The values of a field. -/
abbrev Kind.Value : Kind → Type
  | .uint8 => UInt8
  | .uint64 => UInt64
  | .uint256 => Uint256
  | .octets size => Octets size
  | .bytes => Bytes
  | .optional size => Option (Octets size)

/-! ### Single fields -/

/-- The encoding of a field. Numbers are the shortest byte strings that spell them. -/
def Kind.encode : (kind : Kind) → kind.Value → Bytes
  | .uint8, n => encodeString (Bytes.ofNat n.toNat)
  | .uint64, n => encodeString (Bytes.ofNat n.toNat)
  | .uint256, n => encodeString (Bytes.ofNat n.toNat)
  | .octets _, o => encodeString o.bytes
  | .bytes, b => encodeString b
  | .optional _, none => encodeString []
  | .optional _, some o => encodeString o.bytes

/-- The number of at most `size` bytes that a payload spells. -/
def readMachineNumber (size : Nat) (payload : Bytes) : Except Error Nat :=
  if size < payload.length then .error .overflow
  else if payload.head? = some 0 then .error .leadingZero
  else .ok (Bytes.toNat payload)

/-- The number of at most 32 bytes that a payload spells. -/
def readWord (payload : Bytes) : Except Error Uint256 :=
  if payload.head? = some 0 then .error .leadingZero
  else if 32 < payload.length then .error .overflow
  else .ok (BitVec.ofNat 256 (Bytes.toNat payload))

/-- The payload as a byte string of a fixed size. -/
def readOctets (size : Nat) (payload : Bytes) : Except Error (Octets size) :=
  match Octets.ofBytes? size payload with
  | some o => .ok o
  | none => .error .unexpectedLength

/-- Reads a field through its payload. -/
def readWith {α : Type} (interpret : Bytes → Except Error α) (buffer : Bytes) :
    Except Error (α × Bytes) :=
  match readString buffer with
  | .error e => .error e
  | .ok (payload, rest) =>
    match interpret payload with
    | .error e => .error e
    | .ok a => .ok (a, rest)

/-- Reads a field from the front of a buffer; the second component is what follows it. -/
def Kind.read : (kind : Kind) → Bytes → Except Error (kind.Value × Bytes)
  | .uint8 => readWith fun payload => (readMachineNumber 1 payload).map UInt8.ofNat
  | .uint64 => readWith fun payload => (readMachineNumber 8 payload).map UInt64.ofNat
  | .uint256 => readWith readWord
  | .octets size => readWith (readOctets size)
  | .bytes => readWith .ok
  | .optional size => fun buffer =>
    match buffer with
    | 0x80 :: rest => .ok (none, rest)
    | buffer => readWith (fun payload => (readOctets size payload).map some) buffer

/-! ### Rows -/

/-- A value for each of a sequence of kinds. -/
abbrev Row : List Kind → Type
  | [] => Unit
  | kind :: kinds => kind.Value × Row kinds

/-- The encodings of the fields of a row, one after another. -/
def encodeFields : (kinds : List Kind) → Row kinds → Bytes
  | [], _ => []
  | kind :: kinds, (value, row) => kind.encode value ++ encodeFields kinds row

/-- The list of the fields of a row. -/
def encodeRow (kinds : List Kind) (row : Row kinds) : Bytes := encodeList (encodeFields kinds row)

/-- Reads the fields of a row from the front of a buffer. -/
def readFields : (kinds : List Kind) → Bytes → Except Error (Row kinds × Bytes)
  | [], buffer => .ok ((), buffer)
  | kind :: kinds, buffer =>
    match kind.read buffer with
    | .error e => .error e
    | .ok (value, rest) =>
      match readFields kinds rest with
      | .error e => .error e
      | .ok (row, rest) => .ok ((value, row), rest)

/-- Nothing is left of a buffer. -/
def finish (buffer : Bytes) : Except Error Unit :=
  if buffer.isEmpty then .ok () else .error .trailingFields

/-- Reads the list of a row. -/
def decodeRow (kinds : List Kind) (buffer : Bytes) : Except Error (Row kinds) := do
  let payload ← openList buffer
  let (row, rest) ← readFields kinds payload
  finish rest
  return row

end PosvGateway.Rlp
