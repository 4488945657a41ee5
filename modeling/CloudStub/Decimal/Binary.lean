/-!
# Binary fractions

A finite double-precision number is a natural number times a power of two.  This module takes
numbers apart into that form and rounds decimal numbers to the nearest number of that form, ties
going to the even neighbour, all in exact natural arithmetic.

A decimal is rounded in one of two ways: at once, or in steps as a product of a rounded
significand and a rounded power of ten.  The second way may miss the nearest number by a unit in
the last place.

## Main Definitions

- `Binary`: a natural number times a power of two
- `Binary.ofFloat`: the magnitude of a finite number
- `Decimal.toFloat?`: the number nearest to a decimal, unless it is too large
- `Decimal.scaled?`: the rounded product of a significand and a power of ten
-/

namespace CloudStub

/-- The number `mantissa * 2 ^ exponent`. -/
structure Binary where
  /-- The factor. -/
  mantissa : Nat
  /-- The power of two. -/
  exponent : Int
  deriving DecidableEq, Repr

namespace Binary

/-- The exponent field of a number. -/
def exponentField (x : Float) : Nat := (x.toBits.toNat / Nat.pow 2 52) % Nat.pow 2 11

/-- The fraction field of a number. -/
def fractionField (x : Float) : Nat := x.toBits.toNat % Nat.pow 2 52

/-- Whether the sign bit is set. -/
def isNegative (x : Float) : Bool := x.toBits.toNat / Nat.pow 2 63 == 1

/-- The magnitude of a finite number. -/
def ofFloat (x : Float) : Binary :=
  if exponentField x = 0 then ⟨fractionField x, -1074⟩
  else ⟨fractionField x + Nat.pow 2 52, (exponentField x : Int) - 1075⟩

/-- The bits of a magnitude whose mantissa is at most `2 ^ 53`, unless the number is too large. -/
def bits? (b : Binary) : Option Nat :=
  if b.mantissa < Nat.pow 2 52 then some b.mantissa
  else
    let (mantissa, exponent) :=
      if b.mantissa = Nat.pow 2 53 then (Nat.pow 2 52, b.exponent + 1) else (b.mantissa, b.exponent)
    let field := exponent + 1075
    if field ≥ 2047 then none else some (field.toNat * Nat.pow 2 52 + (mantissa - Nat.pow 2 52))

end Binary

namespace Decimal

/-- The quotient rounded to the nearest natural number, a half to the even neighbour. -/
def divNearest (num den : Nat) : Nat :=
  let q := num / den
  let twice := 2 * (num % den)
  if twice < den then q
  else if twice > den then q + 1
  else q + q % 2

/-- The quotient `num / den / 2 ^ q` with numerator and denominator kept apart. -/
def scale (num den : Nat) (q : Int) : Nat × Nat :=
  if q ≥ 0 then (num, den * Nat.pow 2 q.toNat) else (num * Nat.pow 2 (-q).toNat, den)

/-- The magnitude nearest to a positive quotient. -/
def nearest (num den : Nat) : Binary :=
  let b : Int := (num.log2 : Int) - (den.log2 : Int)
  let (n, d) := scale num den (b - 53)
  let q := max (if n / d ≥ Nat.pow 2 53 then b - 52 else b - 53) (-1074)
  let (n, d) := scale num den q
  ⟨divNearest n d, q⟩

/-- The bits of the magnitude nearest to `digits * 10 ^ exponent`, unless it is too large.
Exponents far outside the range of numbers are decided without computing the power. -/
def bits? (digits : Nat) (exponent : Int) : Option Nat :=
  if digits = 0 then some 0
  else
    let size : Int := ((Nat.toDigits 10 digits).length : Int) + exponent
    if size > 400 then none
    else if size < -400 then some 0
    else if exponent ≥ 0 then (nearest (digits * Nat.pow 10 exponent.toNat) 1).bits?
    else (nearest digits (Nat.pow 10 (-exponent).toNat)).bits?

/-- The number with the given bits, negated on request. -/
def signed (negative : Bool) (bits : Nat) : Float :=
  Float.ofBits (UInt64.ofNat (if negative then bits + Nat.pow 2 63 else bits))

/-- The number nearest to `digits * 10 ^ exponent`, negated on request, unless it is too large. -/
def toFloat? (negative : Bool) (digits : Nat) (exponent : Int) : Option Float :=
  (bits? digits exponent).map (signed negative)

/-- The number nearest to an integer of moderate size. -/
def ofInt (i : Int) : Float := (toFloat? (i < 0) i.natAbs 0).getD 0

/-- The magnitude nearest to `num / den * 2 ^ q`. -/
def nearestAt (num den : Nat) (q : Int) : Binary :=
  if num = 0 then ⟨0, 0⟩
  else
    let (n, d) := scale num den (-q)
    nearest n d

/-- The magnitude nearest to a product. -/
def times (a b : Binary) : Binary := nearestAt (a.mantissa * b.mantissa) 1 (a.exponent + b.exponent)

/-- The magnitude nearest to a quotient. -/
def dividedBy (a b : Binary) : Binary := nearestAt a.mantissa b.mantissa (a.exponent - b.exponent)

/-- The magnitude nearest to a power of ten. -/
def powerOfTen (k : Nat) : Binary := nearest (Nat.pow 10 k) 1

/-- The largest exponent of ten for which the power is a number. -/
def powerLimit : Nat := 308

/-- A magnitude times a power of ten, unless it is too large.  Very small powers take several
divisions; nothing is left after `tries` of them. -/
def shift? : Nat → Binary → Int → Option Binary
  | 0, _, _ => some ⟨0, 0⟩
  | tries + 1, b, e =>
    if e.natAbs ≤ powerLimit then
      if e ≥ 0 then
        let product := times b (powerOfTen e.natAbs)
        product.bits?.map fun _ => product
      else some (dividedBy b (powerOfTen e.natAbs))
    else if b.mantissa = 0 then some b
    else if e ≥ 0 then none
    else shift? tries (dividedBy b (powerOfTen powerLimit)) (e + powerLimit)

/-- The rounded product of the rounded significand and the rounded power of ten, negated on
request, unless it is too large. -/
def scaled? (negative : Bool) (significand : Nat) (exponent : Int) : Option Float := do
  let b ← shift? 4 (nearestAt significand 1 0) exponent
  let bits ← b.bits?
  some (signed negative bits)

end Decimal

end CloudStub
