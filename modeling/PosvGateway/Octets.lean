/-!
# Byte strings

A `Bytes` is a string of bytes of any length; an `Octets n` is one of exactly `n`, the form of
addresses (`Address`), of digests (`Digest`) and of the other fixed-size fields of a block.

* `Bytes.toNat` reads a byte string as a big-endian number, `Bytes.ofNat` writes the shortest
  byte string of a number and `Bytes.ofNatSized` one of a given length;
* `Octets n` is ordered by the number it spells.
-/

namespace PosvGateway

/-- A byte string. -/
abbrev Bytes := List UInt8

namespace Bytes

/-- The number that `bytes` spells, most significant byte first. -/
def toNat (bytes : Bytes) : Nat :=
  bytes.foldl (fun acc b => acc * 256 + b.toNat) 0

/-- The bytes of `n`, most significant first, in front of `tail`; `fuel` bounds their number. -/
def ofNatAux : Nat → Nat → Bytes → Bytes
  | 0, _, tail => tail
  | fuel + 1, n, tail =>
    if n = 0 then tail else ofNatAux fuel (n / 256) (UInt8.ofNat (n % 256) :: tail)

/-- The shortest byte string that spells `n`; zero is spelled by no bytes. -/
def ofNat (n : Nat) : Bytes := ofNatAux (n.log2 + 1) n []

/-- The low `size` bytes of `n`, most significant first. -/
def ofNatSized : Nat → Nat → Bytes
  | 0, _ => []
  | size + 1, n => ofNatSized size (n / 256) ++ [UInt8.ofNat (n % 256)]

theorem length_ofNatSized (size n : Nat) : (ofNatSized size n).length = size := by
  induction size generalizing n with
  | zero => rfl
  | succ size ih => simp [ofNatSized, ih]

end Bytes

/-- A byte string of exactly `n` bytes. -/
structure Octets (n : Nat) where
  /-- The bytes. -/
  bytes : Bytes
  /-- There are `n` of them. -/
  length_bytes : bytes.length = n
  deriving DecidableEq

/-- The account of a key or a contract. -/
abbrev Address := Octets 20

/-- A 32-byte hash. -/
abbrev Digest := Octets 32

namespace Octets

variable {n : Nat}

@[ext] theorem ext {a b : Octets n} (h : a.bytes = b.bytes) : a = b := by
  cases a; cases b; cases h; rfl

/-- `bytes` as a string of `n` bytes, if it has that length. -/
def ofBytes? (n : Nat) (bytes : Bytes) : Option (Octets n) :=
  if h : bytes.length = n then some ⟨bytes, h⟩ else none

/-- The low `n` bytes of a number. -/
def ofNat (n v : Nat) : Octets n := ⟨Bytes.ofNatSized n v, Bytes.length_ofNatSized n v⟩

/-- `n` zero bytes. -/
def zero (n : Nat) : Octets n := ⟨List.replicate n 0, List.length_replicate⟩

/-- The number that the bytes spell, most significant first. -/
def toNat (o : Octets n) : Nat := Bytes.toNat o.bytes

/-- Strings of one length are ordered as the numbers they spell. -/
instance : Ord (Octets n) := ⟨fun a b => compare a.toNat b.toNat⟩

instance : Inhabited (Octets n) := ⟨zero n⟩

/-- The last `k` bytes. -/
def takeEnd (o : Octets n) (k : Nat) (h : k ≤ n) : Octets k :=
  ⟨o.bytes.drop (n - k), by rw [List.length_drop, o.length_bytes]; omega⟩

end Octets

end PosvGateway
