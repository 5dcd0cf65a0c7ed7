import PosvGateway.Address
import PosvGateway.Json.Record
import PosvGateway.Node.Call
import PosvGateway.Numeral.Quantity

/-!
# The ledger's scalars in JSON

Quantities are texts or small integers, amounts likewise; byte strings are hexadecimal texts or
arrays of bytes. Written, they are always texts: `0x` and as few digits as the number needs, or two
digits a byte.
-/

namespace PosvGateway

namespace Reader

/-- A quantity: its text, or an integer. -/
def quantity : Reader UInt64 := fun depth doc =>
  match doc with
  | .number _ => (natural UInt64.size depth doc).map UInt64.ofNat
  | doc => parsed (fun s => (Quantity.read s).toOption) depth doc

/-- An amount: its text, or an integer of 64 bits. -/
def uint256 : Reader Uint256 := fun depth doc =>
  match doc with
  | .number _ => (natural UInt64.size depth doc).map (BitVec.ofNat 256)
  | doc => parsed (fun s => (Numeral.readUint256 s).toOption) depth doc

/-- A byte string. -/
def bytes : Reader Bytes := fun depth doc =>
  match doc with
  | .array _ => list byte depth doc
  | doc => parsed (fun s => (Hex.decode s).toOption) depth doc

/-- A reader of a byte that is given this value does without it, and is at its end then: the value
is a scalar other than a byte, and is not given up before its end. -/
def isPassable (doc : Document) : Bool :=
  match doc with
  | .null | .bool _ | .string (.text _) => true
  | .string (.unpaired atEnd) => atEnd
  | .number literal => (byte 0 doc).toOption.isNone && !literal.overruns
  | _ => false

/-- A byte string of a fixed size. Behind the bytes of an array one scalar is passed over, if it is
no byte. -/
def octets (n : Nat) : Reader (Octets n) := fun depth doc =>
  match doc with
  | .array docs =>
    match list byte depth (.array (docs.take n)) with
    | .error e => .error e
    | .ok bytes =>
      match Octets.ofBytes? n bytes, docs.drop n with
      | some o, [] => .ok o
      | some o, [extra] => if isPassable extra then .ok o else .error (misfit extra)
      | _, _ => .error .shape
  | doc => parsed (fun s => (Hex.decodeOctets n s).toOption) depth doc

end Reader

namespace Json

/-- A quantity. -/
def quantity (n : UInt64) : Json := .string (Quantity.write n)

/-- An amount. -/
def uint256 (v : Uint256) : Json := .string (Numeral.hex v.toNat)

/-- A byte string. -/
def bytes (b : Bytes) : Json := .string (Hex.encode b)

/-- A byte string of a fixed size. -/
def octets {n : Nat} (o : Octets n) : Json := .string o.toHex

/-- A value that may be null. -/
def orNull (value : Option Json) : Json := value.getD .null

end Json

/-- Reads the result of a call; `what` names it in the error. -/
def Reader.decode {α : Type} (reader : Reader α) (what : String) (result : String) :
    Except NodeError α :=
  match reader.run result with
  | .ok a => .ok a
  | .error misfit => .error (.decode (what ++ ": " ++ misfit.message))

end PosvGateway
