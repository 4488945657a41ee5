import CloudStub.Text.Bytes

/-!
# Elliptic curves

The points of a curve `y ^ 2 = x ^ 3 - 3 x + b` over a prime field, and the multiples of its base
point.  The coefficient `b` does not occur in the formulas.

## Main Definitions

- `Curve`: a curve with a base point
- `Curve.p256`, `Curve.p384`: two standard curves
- `Curve.publicPoint`: the written form of a multiple of the base point

## Design Notes

Points are kept in Jacobian coordinates, `(x / z ^ 2, y / z ^ 3)`, so that one inversion at the end
is enough; the point at infinity has `z = 0`.
-/

namespace CloudStub

/-- A curve over a prime field with a base point. -/
structure Curve where
  /-- The order of the field. -/
  prime : Nat
  /-- The order of the base point. -/
  order : Nat
  /-- The first coordinate of the base point. -/
  baseX : Nat
  /-- The second coordinate of the base point. -/
  baseY : Nat
  /-- The number of bytes of a coordinate. -/
  size : Nat
  deriving DecidableEq, Repr

namespace Curve

/-- The standard curve over a field of 256 bits. -/
def p256 : Curve where
  prime := 0xffffffff00000001000000000000000000000000ffffffffffffffffffffffff
  order := 0xffffffff00000000ffffffffffffffffbce6faada7179e84f3b9cac2fc632551
  baseX := 0x6b17d1f2e12c4247f8bce6e563a440f277037d812deb33a0f4a13945d898c296
  baseY := 0x4fe342e2fe1a7f9b8ee7eb4a7c0f9e162bce33576b315ececbb6406837bf51f5
  size := 32

/-- The standard curve over a field of 384 bits. -/
def p384 : Curve where
  prime := Nat.pow 2 384 - Nat.pow 2 128 - Nat.pow 2 96 + Nat.pow 2 32 - 1
  order :=
    0xffffffffffffffffffffffffffffffffffffffffffffffffc7634d81f4372ddf581a0db248b0a77aecec196accc52973
  baseX :=
    0xaa87ca22be8b05378eb1c71ef320ad746e1d3b628ba79b9859f741e082542a385502f25dbf55296c3a545e3872760ab7
  baseY :=
    0x3617de4a96262c6f5d9e98bf9292dc29f8f41dbd289a147ce9da3113b5f0b8c00a60b1ce1d7e819d7a431d7c90ea0e5f
  size := 48

/-- A point in Jacobian coordinates. -/
structure Point where
  /-- The first coordinate times the square of the third. -/
  x : Nat
  /-- The second coordinate times the cube of the third. -/
  y : Nat
  /-- The third coordinate. -/
  z : Nat
  deriving DecidableEq, Repr

/-- The difference in the field. -/
def sub (c : Curve) (a b : Nat) : Nat := (a + (c.prime - b % c.prime)) % c.prime

/-- The product in the field. -/
def mul (c : Curve) (a b : Nat) : Nat := a * b % c.prime

/-- The point at infinity. -/
def infinity : Point := ⟨1, 1, 0⟩

/-- The base point. -/
def base (c : Curve) : Point := ⟨c.baseX, c.baseY, 1⟩

/-- Twice a point. -/
def double (c : Curve) (p : Point) : Point :=
  if p.y = 0 || p.z = 0 then infinity
  else
    let yy := c.mul p.y p.y
    let zz := c.mul p.z p.z
    let s := c.mul (4 * p.x) yy
    let m := c.mul 3 (c.mul (c.sub p.x zz) (p.x + zz))
    let x := c.sub (c.mul m m) (2 * s)
    ⟨x, c.sub (c.mul m (c.sub s x)) (8 * c.mul yy yy), c.mul (2 * p.y) p.z⟩

/-- The sum of two points. -/
def add (c : Curve) (p q : Point) : Point :=
  if p.z = 0 then q
  else if q.z = 0 then p
  else
    let pzz := c.mul p.z p.z
    let qzz := c.mul q.z q.z
    let u := c.mul p.x qzz
    let s := c.mul p.y (c.mul q.z qzz)
    let h := c.sub (c.mul q.x pzz) u
    let r := c.sub (c.mul q.y (c.mul p.z pzz)) s
    if h = 0 then (if r = 0 then c.double p else infinity)
    else
      let hh := c.mul h h
      let hhh := c.mul h hh
      let v := c.mul u hh
      let x := c.sub (c.mul r r) (hhh + 2 * v)
      ⟨x, c.sub (c.mul r (c.sub v x)) (c.mul s hhh), c.mul h (c.mul p.z q.z)⟩

/-- A multiple of a point, for a factor of at most `bits` bits. -/
def scale (c : Curve) (p : Point) : Nat → Nat → Point
  | 0, _ => infinity
  | bits + 1, k =>
    let half := c.double (scale c p bits (k / 2))
    if k % 2 = 1 then c.add half p else half

/-- A power in the field, for an exponent of at most `bits` bits. -/
def power (c : Curve) (a : Nat) : Nat → Nat → Nat
  | 0, _ => 1
  | bits + 1, k =>
    let half := power c a bits (k / 2)
    let square := c.mul half half
    if k % 2 = 1 then c.mul square a else square

/-- A number as that many bytes, the most significant first. -/
def bytesOf : Nat → Nat → Bytes
  | 0, _ => []
  | size + 1, n => bytesOf size (n / 256) ++ [UInt8.ofNat n]

/-- The written form of a point that is not at infinity: a mark and both coordinates. -/
def write (c : Curve) (p : Point) : Bytes :=
  let inverse := c.power p.z (8 * c.size) (c.prime - 2)
  let square := c.mul inverse inverse
  4 :: (bytesOf c.size (c.mul p.x square) ++ bytesOf c.size (c.mul p.y (c.mul square inverse)))

/-- The written form of a multiple of the base point. -/
def publicPoint (c : Curve) (k : Nat) : Bytes := c.write (c.scale c.base (8 * c.size) k)

end Curve

end CloudStub
