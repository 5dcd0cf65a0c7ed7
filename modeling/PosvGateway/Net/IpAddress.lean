import PosvGateway.Numeral.Basic
import PosvGateway.Octets
import PosvGateway.Text.Split

/-!
# Internet addresses

An address of the internet, of version 4 or 6.

* `IpAddress.read?` reads the usual texts: four decimal numbers without leading zeros, or eight
  hexadecimal groups of which one run may be left out by a double colon and the last two may be
  written as a version 4 address;
* `IpAddress.text` writes them: the longest run of two or more zero groups is left out, and an
  address of version 4 within one of version 6 keeps its form.
-/

namespace PosvGateway

/-- An address of the internet. -/
inductive IpAddress where
  | v4 (bytes : Octets 4)
  | v6 (bytes : Octets 16)
  deriving DecidableEq

namespace IpAddress

/-! ### Writing -/

/-- The four numbers with points between them. -/
def dotted (bytes : Bytes) : String :=
  ".".intercalate (bytes.map fun b => Numeral.decimal b.toNat)

/-- The groups of two bytes. -/
def groups : Bytes → List Nat
  | high :: low :: bytes => (256 * high.toNat + low.toNat) :: groups bytes
  | _ => []

/-- The groups in hexadecimal digits with colons between them. -/
def colonized (groups : List Nat) : String :=
  ":".intercalate (groups.map fun g => String.ofList (Nat.toDigits 16 g))

/-- Where the longest run of zero groups starts, the first of several, and how long it is. -/
def zeroRun (groups : List Nat) : Nat × Nat :=
  (List.range groups.length).foldl (fun best start =>
    let length := ((groups.drop start).takeWhile (· == 0)).length
    if best.2 < length then (start, length) else best) (0, 0)

/-- The groups with their longest run of zeros left out. -/
def compressed (groups : List Nat) : String :=
  let (start, length) := zeroRun groups
  if length < 2 then colonized groups
  else colonized (groups.take start) ++ "::" ++ colonized (groups.drop (start + length))

/-- The text of an address. -/
def text : IpAddress → String
  | .v4 bytes => dotted bytes.bytes
  | .v6 bytes =>
    if (groups bytes.bytes).take 6 = [0, 0, 0, 0, 0, 0xffff] then
      "::ffff:" ++ dotted (bytes.bytes.drop 12)
    else compressed (groups bytes.bytes)

/-- The text of an address and the number of one of its sockets. -/
def withSocket (address : IpAddress) (number : Nat) : String :=
  match address with
  | .v4 _ => address.text ++ ":" ++ Numeral.decimal number
  | .v6 _ => "[" ++ address.text ++ "]:" ++ Numeral.decimal number

/-! ### Reading -/

/-- A number of one to `most` digits that is below `bound`. -/
def readPart? (base most bound : Nat) (part : List Char) : Option Nat :=
  if part = [] ∨ most < part.length then none
  else match part.mapM (Numeral.digit? base) with
  | some digits =>
    let n := digits.foldl (fun n d => n * base + d) 0
    if n < bound then some n else none
  | none => none

/-- One of the four numbers of a version 4 address, which has no leading zero. -/
def readByte? (part : List Char) : Option Nat :=
  if part.head? = some '0' ∧ 1 < part.length then none else readPart? 10 3 256 part

/-- The numbers of a version 4 address. -/
def readDotted? (text : List Char) : Option Bytes :=
  match Text.split (· = '.') text with
  | [a, b, c, d] => do
    let bytes ← [a, b, c, d].mapM readByte?
    return bytes.map UInt8.ofNat
  | _ => none

/-- The bytes of a list of groups, of which the last may be a version 4 address if it is the last
of the whole. -/
def readGroups? (last : Bool) : List (List Char) → Option Bytes
  | [] => some []
  | [part] =>
    match readPart? 16 4 UInt16.size part with
    | some g => some (Bytes.ofNatSized 2 g)
    | none => if last then readDotted? part else none
  | part :: parts => do
    let g ← readPart? 16 4 UInt16.size part
    let bytes ← readGroups? last parts
    return Bytes.ofNatSized 2 g ++ bytes

/-- The parts of one side of a double colon; an empty side has none. -/
def sideParts (side : List Char) : List (List Char) :=
  if side = [] then [] else Text.split (· = ':') side

/-- Cuts a text at its first double colon. -/
def cutAtDoubleColon? : List Char → Option (List Char × List Char)
  | ':' :: ':' :: rest => some ([], rest)
  | c :: rest => (cutAtDoubleColon? rest).map fun (front, rest) => (c :: front, rest)
  | [] => none

/-- Reads an address of version 6. A double colon stands for at least one group. -/
def readV6? (text : List Char) : Option (Octets 16) := do
  match cutAtDoubleColon? text with
  | none => Octets.ofBytes? 16 (← readGroups? true (Text.split (· = ':') text))
  | some (front, rest) =>
    let front ← readGroups? false (sideParts front)
    let rest ← readGroups? true (sideParts rest)
    let left := 16 - (front.length + rest.length)
    if left < 2 then none
    else Octets.ofBytes? 16 (front ++ List.replicate left 0 ++ rest)

/-- Reads an address. -/
def read? (text : String) : Option IpAddress :=
  match readDotted? text.toList with
  | some bytes => (Octets.ofBytes? 4 bytes).map .v4
  | none => (readV6? text.toList).map .v6

end IpAddress

end PosvGateway
