/-!
# The curve secp256k1

The points of `y² = x³ + 7` over the field of `p` elements, with their group law.

* `Point` is a point with affine coordinates or the point at infinity; `Point.mk?` checks the
  equation and `Point.ofX?` finds the point of an abscissa and a parity;
* `Jacobian` points, where `(x, y, z)` stands for `(x / z², y / z³)` and `z = 0` for infinity, are
  added and doubled without divisions;
* `combine a P b Q` is `a P + b Q`.
-/

namespace PosvGateway.Secp256k1

/-- The order of the field, `2 ^ 256 - 2 ^ 32 - 977`. -/
def p : Nat := 0xfffffffffffffffffffffffffffffffffffffffffffffffffffffffefffffc2f

/-- The order of the group. -/
def n : Nat := 0xfffffffffffffffffffffffffffffffebaaedce6af48a03bbfd25e8cd0364141

/-- `base ^ exponent` modulo `m`, by squaring; `fuel` bounds the bits of the exponent. -/
def powMod (m : Nat) : Nat → Nat → Nat → Nat
  | 0, _, _ => 1 % m
  | fuel + 1, base, exponent =>
    if exponent = 0 then 1 % m
    else
      let half := powMod m fuel (base * base % m) (exponent / 2)
      if exponent % 2 = 1 then half * base % m else half

/-- The inverse modulo a prime. -/
def inverse (m a : Nat) : Nat := powMod m 256 (a % m) (m - 2)

/-- The difference modulo `p` of two field elements. -/
def sub (a b : Nat) : Nat := (a + p - b) % p

/-- A point of the curve. -/
inductive Point where
  | infinity
  | affine (x y : Nat)
  deriving DecidableEq, Repr

/-- The right side of the curve's equation. -/
def curveAt (x : Nat) : Nat := (x * x % p * x + 7) % p

/-- The point with two coordinates, if they are field elements and on the curve. -/
def Point.mk? (x y : Nat) : Option Point :=
  if x < p ∧ y < p ∧ y * y % p = curveAt x then some (.affine x y) else none

/-- The point with an abscissa and an ordinate of the given parity, if there is one. -/
def Point.ofX? (x : Nat) (odd : Bool) : Option Point :=
  if x < p then
    let square := curveAt x
    let y := powMod p 256 square ((p + 1) / 4)
    if y * y % p = square then
      some (.affine x (if decide (y % 2 = 1) = odd then y else (p - y) % p))
    else none
  else none

/-- A point in Jacobian coordinates. -/
structure Jacobian where
  x : Nat
  y : Nat
  z : Nat
  deriving Repr

namespace Jacobian

/-- The point at infinity. -/
def infinity : Jacobian := ⟨1, 1, 0⟩

/-- A point in Jacobian coordinates. -/
def ofPoint : Point → Jacobian
  | .infinity => infinity
  | .affine x y => ⟨x, y, 1⟩

/-- A point in affine coordinates. -/
def toPoint (a : Jacobian) : Point :=
  if a.z = 0 then .infinity
  else
    let w := inverse p a.z
    let w2 := w * w % p
    .affine (a.x * w2 % p) (a.y * (w2 * w % p) % p)

/-- Twice a point. -/
def double (a : Jacobian) : Jacobian :=
  if a.z = 0 ∨ a.y = 0 then infinity
  else
    let y2 := a.y * a.y % p
    let s := 4 * a.x * y2 % p
    let m := 3 * a.x * a.x % p
    let x := sub (m * m % p) (2 * s % p)
    let y := sub (m * sub s x % p) (8 * y2 * y2 % p)
    ⟨x, y, 2 * a.y * a.z % p⟩

/-- The sum of two points. -/
def add (a b : Jacobian) : Jacobian :=
  if a.z = 0 then b
  else if b.z = 0 then a
  else
    let za2 := a.z * a.z % p
    let zb2 := b.z * b.z % p
    let u1 := a.x * zb2 % p
    let u2 := b.x * za2 % p
    let s1 := a.y * (zb2 * b.z % p) % p
    let s2 := b.y * (za2 * a.z % p) % p
    if u1 = u2 then if s1 = s2 then double a else infinity
    else
      let h := sub u2 u1
      let r := sub s2 s1
      let h2 := h * h % p
      let h3 := h2 * h % p
      let v := u1 * h2 % p
      let x := sub (sub (r * r % p) h3) (2 * v % p)
      let y := sub (r * sub v x % p) (s1 * h3 % p)
      ⟨x, y, h * a.z % p * b.z % p⟩

/-- The sum of multiples `a * P + b * Q`, from the bits of both multipliers: `bits` of them are
left, and `sum` is `P + Q`. -/
def combineFrom (P Q sum : Jacobian) (a b : Nat) : Nat → Jacobian → Jacobian
  | 0, acc => acc
  | bits + 1, acc =>
    let acc := double acc
    let acc := match a.testBit bits, b.testBit bits with
      | true, true => add acc sum
      | true, false => add acc P
      | false, true => add acc Q
      | false, false => acc
    combineFrom P Q sum a b bits acc

end Jacobian

/-- The sum `a * P + b * Q` for multipliers below `2 ^ 256`. -/
def combine (a : Nat) (P : Point) (b : Nat) (Q : Point) : Point :=
  let P := Jacobian.ofPoint P
  let Q := Jacobian.ofPoint Q
  (Jacobian.combineFrom P Q (Jacobian.add P Q) a b 256 Jacobian.infinity).toPoint

/-- The generator of the group. -/
def generator : Point :=
  .affine 0x79be667ef9dcbbac55a06295ce870b07029bfcdb2dce28d959f2815b16f81798
    0x483ada7726a3c4655da4fbfc0e1108a8fd17b448a68554199c47d08ffb10d4b8

end PosvGateway.Secp256k1
