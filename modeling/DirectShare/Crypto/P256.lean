import DirectShare.Bytes

/-!
# The curve P-256

The points of the curve `y ^ 2 = x ^ 3 - 3 x + b` over a prime field, and how they are written: as two
coordinates, or as the first one with the parity of the second.

A `P256.Point` is any point but the neutral element, in affine coordinates. `P256.Point.ofBytes?`
and `P256.Point.encode` read and write it, `P256.publicPoint?` multiplies the base point by a
private scalar, and `P256.sharedSecret?` gives the first coordinate of the point that two sides
agree on.
-/

namespace DirectShare.P256

/-- The order of the field. -/
abbrev p : Nat := 0xffffffff00000001000000000000000000000000ffffffffffffffffffffffff

/-- The number of points. -/
abbrev n : Nat := 0xffffffff00000000ffffffffffffffffbce6faada7179e84f3b9cac2fc632551

/-- The field. -/
abbrev Coordinate := Fin p

/-- The constant of the curve. -/
def b : Coordinate := 0x5ac635d8aa3a93e7b3ebbd55769886bc651d06b0cc53b0f63bce3c3e27d2604b

/-- A power of an element. -/
def power (a : Coordinate) (e : Nat) : Coordinate :=
  if e = 0 then 1
  else
    let root := power a (e / 2)
    if e % 2 = 0 then root * root else root * root * a
termination_by e
decreasing_by omega

/-- The inverse of an element other than zero. -/
def inverse (a : Coordinate) : Coordinate := power a (p - 2)

/-- A square root of an element, if it has one. -/
def sqrt? (a : Coordinate) : Option Coordinate :=
  let r := power a ((p + 1) / 4)
  if r * r = a then some r else none

/-- The right side of the equation of the curve. -/
def cubic (x : Coordinate) : Coordinate := x * x * x - 3 * x + b

/-- A point of the curve other than its neutral element. -/
structure Point where
  /-- The first coordinate. -/
  x : Coordinate
  /-- The second coordinate. -/
  y : Coordinate
deriving DecidableEq, Repr

namespace Point

/-- The coordinate with the given 32 bytes. -/
def coordinate? (bs : Bytes) : Option Coordinate :=
  if h : Bytes.toNatBE bs < p then some ⟨Bytes.toNatBE bs, h⟩ else none

/-- The point with the given coordinates, if it lies on the curve. -/
def ofCoordinates? (x y : Coordinate) : Option Point := if y * y = cubic x then some ⟨x, y⟩ else none

/-- The point with the given first coordinate, and with a second one of the given parity. -/
def ofX? (x : Coordinate) (odd : Bool) : Option Point := do
  let y ← sqrt? (cubic x)
  return if (y.val % 2 = 1) = odd then ⟨x, y⟩ else ⟨x, -y⟩

/-- The point that bytes stand for. The first byte tells what follows: 2 and 3 the first coordinate
and the parity of the second, 4 both, and 5 the first alone, of which either point may be meant. -/
def ofBytes? : Bytes → Option Point
  | tag :: bs =>
    if tag = 4 then
      if bs.length = 64 then do
        let x ← coordinate? (bs.take 32)
        let y ← coordinate? (bs.drop 32)
        ofCoordinates? x y
      else none
    else if tag = 2 ∨ tag = 3 ∨ tag = 5 then
      if bs.length = 32 then do
        let x ← coordinate? bs
        ofX? x (tag = 3)
      else none
    else none
  | [] => none

/-- The bytes of a point, with both coordinates. -/
def encode (q : Point) : Bytes := 4 :: (Bytes.ofNatBE 32 q.x.val ++ Bytes.ofNatBE 32 q.y.val)

/-- The bytes before a public key of the given length that tell the algorithm and the curve. -/
def keyHeader (length : Nat) : Bytes :=
  [0x30, UInt8.ofNat (length + 24), 0x30, 0x13, 0x06, 0x07, 0x2a, 0x86, 0x48, 0xce, 0x3d, 0x02, 0x01,
    0x06, 0x08, 0x2a, 0x86, 0x48, 0xce, 0x3d, 0x03, 0x01, 0x07, 0x03, UInt8.ofNat (length + 1), 0x00]

/-- The point of a public key that is written with its algorithm and curve. -/
def ofKey? (bs : Bytes) : Option Point :=
  let point := bs.drop 26
  if bs.take 26 = keyHeader point.length ∧ point.length < 128 then ofBytes? point else none

/-- The public key of a point, with its algorithm and curve. -/
def encodeKey (q : Point) : Bytes := keyHeader 65 ++ q.encode

end Point

/-! ### Multiples of a point -/

/-- A point in coordinates that need no division: `(x / z ^ 2, y / z ^ 3)`, or the neutral element
where `z` is zero. -/
structure Jacobian where
  /-- The first coordinate. -/
  x : Coordinate
  /-- The second coordinate. -/
  y : Coordinate
  /-- The denominator. -/
  z : Coordinate
deriving DecidableEq, Repr

namespace Jacobian

/-- The neutral element. -/
def zero : Jacobian := ⟨1, 1, 0⟩

/-- A point in these coordinates. -/
def ofPoint (q : Point) : Jacobian := ⟨q.x, q.y, 1⟩

/-- The point, unless it is the neutral element. -/
def toPoint? (q : Jacobian) : Option Point :=
  if q.z = 0 then none
  else
    let i := inverse q.z
    some ⟨q.x * (i * i), q.y * (i * i * i)⟩

/-- The double of a point. -/
def double (q : Jacobian) : Jacobian :=
  let zz := q.z * q.z
  let yy := q.y * q.y
  let s := 4 * q.x * yy
  let m := 3 * (q.x - zz) * (q.x + zz)
  let x := m * m - 2 * s
  ⟨x, m * (s - x) - 8 * yy * yy, 2 * q.y * q.z⟩

/-- The sum of two points. -/
def add (q r : Jacobian) : Jacobian :=
  if q.z = 0 then r
  else if r.z = 0 then q
  else
    let u1 := q.x * (r.z * r.z)
    let u2 := r.x * (q.z * q.z)
    let s1 := q.y * (r.z * r.z * r.z)
    let s2 := r.y * (q.z * q.z * q.z)
    if u1 = u2 then if s1 = s2 then q.double else zero
    else
      let h := u2 - u1
      let t := s2 - s1
      let hh := h * h
      let v := u1 * hh
      let x := t * t - hh * h - 2 * v
      ⟨x, t * (v - x) - s1 * (hh * h), q.z * r.z * h⟩

/-- A multiple of a point. -/
def mul (q : Jacobian) (k : Nat) : Jacobian :=
  if k = 0 then zero
  else
    let half := mul q (k / 2)
    if k % 2 = 0 then half.double else add half.double q
termination_by k
decreasing_by omega

end Jacobian

/-- The point of which all others are multiples. -/
def generator : Point :=
  ⟨0x6b17d1f2e12c4247f8bce6e563a440f277037d812deb33a0f4a13945d898c296,
    0x4fe342e2fe1a7f9b8ee7eb4a7c0f9e162bce33576b315ececbb6406837bf51f5⟩

/-- A multiple of a point, unless it is the neutral element. -/
def Point.mul? (q : Point) (k : Nat) : Option Point := ((Jacobian.ofPoint q).mul k).toPoint?

/-- A private scalar given by 24 to 32 bytes: a number from 1 up to the number of points. -/
def scalar? (bs : Bytes) : Option Nat :=
  let k := Bytes.toNatBE bs
  if 24 ≤ bs.length ∧ bs.length ≤ 32 ∧ 0 < k ∧ k < n then some k else none

/-- The public point of a private scalar. -/
def publicPoint? (k : Nat) : Option Point := generator.mul? k

/-- The first coordinate of the point that the owner of a private scalar agrees on with the owner of
a public point. -/
def sharedSecret? (k : Nat) (q : Point) : Option Bytes := (q.mul? k).map fun r => Bytes.ofNatBE 32 r.x.val

end DirectShare.P256
