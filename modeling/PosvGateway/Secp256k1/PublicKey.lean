import PosvGateway.Keccak
import PosvGateway.Secp256k1.Curve

/-!
# Public keys

A public key is a point of the curve other than infinity.

* `PublicKey.ofSec1?` reads the SEC1 forms: compressed, uncompressed, and the compact form of an
  abscissa with an even ordinate;
* `PublicKey.recover?` finds the key under which a signature of a digest holds. Signatures with an
  upper-half `s` are refused.
* `PublicKey.address` is the account of a key: the last 20 bytes of the digest of its coordinates.
-/

namespace PosvGateway

/-- A public key, by its affine coordinates. -/
structure PublicKey where
  x : Nat
  y : Nat
  deriving DecidableEq, Repr

namespace PublicKey

open Secp256k1

/-- A point as a key. -/
def ofPoint? : Point → Option PublicKey
  | .infinity => none
  | .affine x y => some ⟨x, y⟩

/-- Reads a key in one of the SEC1 forms. -/
def ofSec1? (bytes : Bytes) : Option PublicKey :=
  match bytes with
  | [] => none
  | tag :: coordinates =>
    if coordinates.length = 32 then
      let x := Bytes.toNat coordinates
      if tag = 2 ∨ tag = 5 then (Point.ofX? x false).bind ofPoint?
      else if tag = 3 then (Point.ofX? x true).bind ofPoint?
      else none
    else if coordinates.length = 64 ∧ tag = 4 then
      (Point.mk? (Bytes.toNat (coordinates.take 32)) (Bytes.toNat (coordinates.drop 32))).bind
        ofPoint?
    else none

/-- The key under which `(r, s)` signs a digest, where the ordinate of the signature's point has
the parity `odd`. -/
def recover? (digest : Digest) (r s : Nat) (odd : Bool) : Option PublicKey :=
  if 0 < r ∧ r < n ∧ 0 < s ∧ s ≤ n / 2 then
    (Point.ofX? r odd).bind fun R =>
      let inv := inverse n r
      let u1 := (n - inv * (digest.toNat % n) % n) % n
      let u2 := inv * s % n
      ofPoint? (combine u1 generator u2 R)
  else none

/-- The two coordinates, 32 bytes each. -/
def coordinates (key : PublicKey) : Bytes :=
  Bytes.ofNatSized 32 key.x ++ Bytes.ofNatSized 32 key.y

/-- The account of a key. -/
def address (key : PublicKey) : Address :=
  (keccak256 key.coordinates).takeEnd 20 (by decide)

end PublicKey

end PosvGateway
