import PosvGateway.Keccak
import Mathlib.Tactic.IntervalCases

/-!
# Keccak-256 by rows

A state is a vector of lanes, and every access to a lane runs through it. Here a state is five rows
of five lanes with a name each, which is what the kernel computes digests with.

* `Keccak.Rows` : a state by its rows, and the steps of a round on it;
* `Keccak.round_toState` : **a round by rows is a round**;
* `Keccak.keccak256_eq` : the digest of a message, by rows.
-/

namespace PosvGateway.Keccak

/-- The lanes of a row. -/
structure Row where
  (a b c d e : UInt64)

namespace Row

/-- The lanes of two rows, added. -/
def add (r s : Row) : Row := ⟨r.a ^^^ s.a, r.b ^^^ s.b, r.c ^^^ s.c, r.d ^^^ s.d, r.e ^^^ s.e⟩

/-- What is added to every row, by the sums of the columns. -/
def effect (sums : Row) : Row :=
  ⟨sums.e ^^^ rotateLeft sums.b 1, sums.a ^^^ rotateLeft sums.c 1,
    sums.b ^^^ rotateLeft sums.d 1, sums.c ^^^ rotateLeft sums.e 1,
    sums.d ^^^ rotateLeft sums.a 1⟩

/-- Combines each lane with the next two. -/
def chi (r : Row) : Row :=
  ⟨r.a ^^^ (~~~ r.b &&& r.c), r.b ^^^ (~~~ r.c &&& r.d), r.c ^^^ (~~~ r.d &&& r.e),
    r.d ^^^ (~~~ r.e &&& r.a), r.e ^^^ (~~~ r.a &&& r.b)⟩

/-- Five lanes of a list from a place on, which stand for zero where there are none. -/
def ofLanes (lanes : List UInt64) (place : Nat) : Row :=
  ⟨lanes.getD place 0, lanes.getD (place + 1) 0, lanes.getD (place + 2) 0,
    lanes.getD (place + 3) 0, lanes.getD (place + 4) 0⟩

end Row

/-- A state by its rows. -/
structure Rows where
  (a b c d e : Row)

namespace Rows

/-- The state with these rows. -/
def toState (s : Rows) : State :=
  #v[s.a.a, s.a.b, s.a.c, s.a.d, s.a.e, s.b.a, s.b.b, s.b.c, s.b.d, s.b.e, s.c.a, s.c.b, s.c.c,
    s.c.d, s.c.e, s.d.a, s.d.b, s.d.c, s.d.d, s.d.e, s.e.a, s.e.b, s.e.c, s.e.d, s.e.e]

/-- Adds to each lane the sums of two neighbouring columns. -/
def theta (s : Rows) : Rows :=
  let effect := ((((s.a.add s.b).add s.c).add s.d).add s.e).effect
  ⟨s.a.add effect, s.b.add effect, s.c.add effect, s.d.add effect, s.e.add effect⟩

/-- Rotates the lanes and moves them to their places. -/
def rhoPi (s : Rows) : Rows :=
  ⟨⟨rotateLeft s.a.a 0, rotateLeft s.b.b 44, rotateLeft s.c.c 43, rotateLeft s.d.d 21,
      rotateLeft s.e.e 14⟩,
    ⟨rotateLeft s.a.d 28, rotateLeft s.b.e 20, rotateLeft s.c.a 3, rotateLeft s.d.b 45,
      rotateLeft s.e.c 61⟩,
    ⟨rotateLeft s.a.b 1, rotateLeft s.b.c 6, rotateLeft s.c.d 25, rotateLeft s.d.e 8,
      rotateLeft s.e.a 18⟩,
    ⟨rotateLeft s.a.e 27, rotateLeft s.b.a 36, rotateLeft s.c.b 10, rotateLeft s.d.c 15,
      rotateLeft s.e.d 56⟩,
    ⟨rotateLeft s.a.c 62, rotateLeft s.b.d 55, rotateLeft s.c.e 39, rotateLeft s.d.a 41,
      rotateLeft s.e.b 2⟩⟩

/-- Combines each lane with the next two of its row. -/
def chi (s : Rows) : Rows := ⟨s.a.chi, s.b.chi, s.c.chi, s.d.chi, s.e.chi⟩

/-- Adds a constant to the first lane. -/
def iota (constant : UInt64) (s : Rows) : Rows :=
  { s with a := { s.a with a := s.a.a ^^^ constant } }

/-- One round. -/
def round (s : Rows) (constant : UInt64) : Rows := s.theta.rhoPi.chi.iota constant

/-- Adds some lanes to the first ones. -/
def addLanes (s : Rows) (lanes : List UInt64) : Rows :=
  let row := Row.ofLanes lanes
  ⟨s.a.add (row 0), s.b.add (row 5), s.c.add (row 10), s.d.add (row 15), s.e.add (row 20)⟩

/-- Adds a block to the first lanes of the state and permutes it. -/
def absorbBlock (s : Rows) (block : Bytes) : Rows :=
  roundConstants.foldl round (s.addLanes (lanesOfBlock 17 block))

/-- Takes in whole blocks, `count` of them. -/
def absorb : Nat → Rows → Bytes → Rows
  | 0, s, _ => s
  | count + 1, s, bytes => absorb count (s.absorbBlock (bytes.take rate)) (bytes.drop rate)

/-- The row of zeros, five times. -/
def zero : Rows :=
  let row : Row := ⟨0, 0, 0, 0, 0⟩
  ⟨row, row, row, row, row⟩

end Rows

/-! ### Rounds -/

variable (s : Rows)

theorem theta_toState : theta s.toState = s.theta.toState := by
  ext i hi
  simp only [theta, Vector.getElem_ofFn]
  interval_cases i <;> rfl

theorem rhoPi_toState : rhoPi s.toState = s.rhoPi.toState := by
  ext i hi
  simp only [rhoPi, Vector.getElem_ofFn]
  interval_cases i <;> rfl

theorem chi_toState : chi s.toState = s.chi.toState := by
  ext i hi
  simp only [chi, Vector.getElem_ofFn]
  interval_cases i <;> rfl

theorem iota_toState (constant : UInt64) :
    iota constant s.toState = (s.iota constant).toState := rfl

/-- A round by rows is a round. -/
theorem round_toState (constant : UInt64) :
    round s.toState constant = (s.round constant).toState := by
  rw [round, theta_toState, rhoPi_toState, chi_toState, iota_toState, Rows.round]

theorem foldl_round_toState (constants : List UInt64) :
    constants.foldl round s.toState = (constants.foldl Rows.round s).toState := by
  induction constants generalizing s with
  | nil => rfl
  | cons constant constants ih => rw [List.foldl_cons, List.foldl_cons, round_toState, ih]

/-! ### The sponge -/

theorem absorbBlock_toState (block : Bytes) :
    absorbBlock s.toState block = (s.absorbBlock block).toState := by
  have hadd : ∀ lanes : List UInt64,
      (Vector.ofFn fun i => s.toState[i] ^^^ (lanes.toArray[i.val]?).getD 0 : State)
        = (s.addLanes lanes).toState := by
    intro lanes
    ext i hi
    simp only [Vector.getElem_ofFn, List.getElem?_toArray]
    interval_cases i <;> rfl
  rw [absorbBlock, hadd, permute, foldl_round_toState, Rows.absorbBlock]

theorem absorb_toState (count : Nat) (bytes : Bytes) :
    absorb count s.toState bytes = (Rows.absorb count s bytes).toState := by
  induction count generalizing s bytes with
  | zero => rfl
  | succ count ih => rw [absorb, absorbBlock_toState, ih, Rows.absorb]

/-- The digest of a message, by rows. -/
theorem keccak256_eq (message : Bytes) :
    keccak256 message =
      let padded := message ++ padding message.length
      ⟨squeeze (Rows.absorb (padded.length / rate) Rows.zero padded).toState,
        length_squeeze _⟩ := by
  have hzero : (Vector.replicate 25 0 : State) = Rows.zero.toState := rfl
  simp only [keccak256, hzero, absorb_toState]

end PosvGateway.Keccak
