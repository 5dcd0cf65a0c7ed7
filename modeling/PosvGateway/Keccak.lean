import PosvGateway.Octets

/-!
# Keccak-256

The hash of the ledger: a sponge over 25 lanes of 64 bits with a rate of 136 bytes, padded by a
`0x01` and a closing `0x80`. `keccak256` is the digest of a byte string.
-/

namespace PosvGateway

namespace Keccak

/-- The state: lane `x + 5 * y` is the lane in column `x` and row `y`. -/
abbrev State := Vector UInt64 25

/-- The rotation of each lane. -/
def rotations : Vector UInt64 25 :=
  #v[0, 1, 62, 28, 27, 36, 44, 6, 55, 20, 3, 10, 43, 25, 39, 41, 45, 15, 21, 8, 18, 2, 61, 56, 14]

/-- The constant of each round. -/
def roundConstants : List UInt64 :=
  [0x0000000000000001, 0x0000000000008082, 0x800000000000808a, 0x8000000080008000,
    0x000000000000808b, 0x0000000080000001, 0x8000000080008081, 0x8000000000008009,
    0x000000000000008a, 0x0000000000000088, 0x0000000080008009, 0x000000008000000a,
    0x000000008000808b, 0x800000000000008b, 0x8000000000008089, 0x8000000000008003,
    0x8000000000008002, 0x8000000000000080, 0x000000000000800a, 0x800000008000000a,
    0x8000000080008081, 0x8000000000008080, 0x0000000080000001, 0x8000000080008008]

/-- A lane rotated to the left. -/
def rotateLeft (lane amount : UInt64) : UInt64 := (lane <<< amount) ||| (lane >>> (64 - amount))

/-- The lane in a column and a row, both taken modulo five. -/
def lane (a : State) (x y : Nat) : UInt64 := a.get ⟨x % 5 + 5 * (y % 5), by omega⟩

/-- The sum of a column. -/
def columnSum (a : State) (x : Nat) : UInt64 :=
  lane a x 0 ^^^ lane a x 1 ^^^ lane a x 2 ^^^ lane a x 3 ^^^ lane a x 4

/-- Adds to each lane the sums of two neighbouring columns. -/
def theta (a : State) : State :=
  let sums : Vector UInt64 5 := Vector.ofFn fun x => columnSum a x
  let effects : Vector UInt64 5 :=
    Vector.ofFn fun x => sums.get ⟨(x.val + 4) % 5, by omega⟩
      ^^^ rotateLeft (sums.get ⟨(x.val + 1) % 5, by omega⟩) 1
  Vector.ofFn fun i => a[i] ^^^ effects.get ⟨i.val % 5, by omega⟩

/-- Rotates the lanes and moves them to their places: column `x` and row `y` receive the lane of
column `x + 3 * y` and row `x`. -/
def rhoPi (a : State) : State :=
  Vector.ofFn fun i =>
    let x := i.val % 5
    let y := i.val / 5
    rotateLeft (lane a (x + 3 * y) x) (lane rotations (x + 3 * y) x)

/-- Combines each lane with the next two of its row. -/
def chi (a : State) : State :=
  Vector.ofFn fun i =>
    let x := i.val % 5
    let y := i.val / 5
    lane a x y ^^^ (~~~ lane a (x + 1) y &&& lane a (x + 2) y)

/-- Adds a constant to the first lane. -/
def iota (constant : UInt64) (a : State) : State := a.set 0 (a[0] ^^^ constant)

/-- One round. -/
def round (a : State) (constant : UInt64) : State := iota constant (chi (rhoPi (theta a)))

/-- The permutation of 24 rounds. -/
def permute (a : State) : State := roundConstants.foldl round a

/-- The number of bytes that one application of the permutation takes in. -/
def rate : Nat := 136

/-- The padding behind a message of a given length: it fills the last block. -/
def padding (length : Nat) : Bytes :=
  let missing := rate - length % rate
  if missing = 1 then [0x81] else 0x01 :: (List.replicate (missing - 2) 0 ++ [0x80])

/-- The lane of eight bytes, least significant first. -/
def laneOfBytes (bytes : Bytes) : UInt64 :=
  bytes.foldr (fun b acc => (acc <<< 8) ||| b.toUInt64) 0

/-- The lanes of a block. -/
def lanesOfBlock : Nat → Bytes → List UInt64
  | 0, _ => []
  | count + 1, bytes => laneOfBytes (bytes.take 8) :: lanesOfBlock count (bytes.drop 8)

/-- Adds a block to the first lanes of the state and permutes it. -/
def absorbBlock (a : State) (block : Bytes) : State :=
  let lanes := (lanesOfBlock 17 block).toArray
  permute (Vector.ofFn fun i => a[i] ^^^ (lanes[i.val]?).getD 0)

/-- Takes in whole blocks, `count` of them. -/
def absorb : Nat → State → Bytes → State
  | 0, a, _ => a
  | count + 1, a, bytes => absorb count (absorbBlock a (bytes.take rate)) (bytes.drop rate)

/-- The eight bytes of a lane, least significant first. -/
def bytesOfLane (lane : UInt64) : Bytes :=
  (List.range 8).map fun k => (lane >>> UInt64.ofNat (8 * k)).toUInt8

/-- The first four lanes of a state as bytes. -/
def squeeze (a : State) : Bytes :=
  bytesOfLane a[0] ++ bytesOfLane a[1] ++ bytesOfLane a[2] ++ bytesOfLane a[3]

theorem length_squeeze (a : State) : (squeeze a).length = 32 := by
  simp [squeeze, bytesOfLane]

end Keccak

/-- The Keccak-256 digest of a byte string. -/
def keccak256 (message : Bytes) : Digest :=
  let padded := message ++ Keccak.padding message.length
  ⟨Keccak.squeeze (Keccak.absorb (padded.length / Keccak.rate) (Vector.replicate 25 0) padded),
    Keccak.length_squeeze _⟩

end PosvGateway
