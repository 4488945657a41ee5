import CloudStub.Decimal.Binary

/-!
# Shortest decimal text

The text of a floating-point number has the fewest significant digits that read back as the same
number; of several such digit sequences the one nearest to the number is taken, a tie going to the
even one.

The numbers that round to a given one form an interval, which contains its ends exactly when the
mantissa is even.  For one, two, up to seventeen digits, the two neighbours of the number on the
grid of decimals with that many digits are tested against the interval.

## Main Definitions

- `Decimal.Reach`: the interval of a number
- `Decimal.Reach.shortest`: fewest digits, with the power of ten of the last
- `Decimal.plain`: the written form, positional for moderate exponents
-/

namespace CloudStub.Decimal

/-- The numbers that round to one value: value and ends over a common denominator. -/
structure Reach where
  /-- Numerator of the lower end. -/
  low : Nat
  /-- Numerator of the value. -/
  value : Nat
  /-- Numerator of the upper end. -/
  high : Nat
  /-- The common denominator. -/
  den : Nat
  /-- Whether the ends round to the value too. -/
  closed : Bool
  deriving Repr

namespace Reach

/-- The interval of a finite positive number.  Below a power of two the numbers lie twice as
dense, so the lower end is nearer there. -/
def ofFloat (x : Float) : Reach :=
  let b := Binary.ofFloat x
  let below := if Binary.fractionField x = 0 && Binary.exponentField x > 1 then 1 else 2
  let q := b.exponent - 2
  let up := if q ≥ 0 then Nat.pow 2 q.toNat else 1
  let den := if q ≥ 0 then 1 else Nat.pow 2 (-q).toNat
  ⟨(4 * b.mantissa - below) * up, 4 * b.mantissa * up, (4 * b.mantissa + 2) * up, den,
    b.mantissa % 2 == 0⟩

/-- Whether `num / scale` lies in the interval. -/
def has (r : Reach) (num scale : Nat) : Bool :=
  let n := num * r.den
  if r.closed then r.low * scale ≤ n && n ≤ r.high * scale
  else r.low * scale < n && n < r.high * scale

/-- How many zeros stand behind the point of `num / den` below one, at most `fuel`. -/
def leadingZeros (den : Nat) : Nat → Nat → Nat
  | 0, _ => 0
  | fuel + 1, num => if num * 10 ≥ den then 0 else leadingZeros den fuel (num * 10) + 1

/-- The exponent `e` with `10 ^ (e - 1) ≤ value < 10 ^ e`. -/
def magnitude (r : Reach) : Int :=
  if r.value ≥ r.den then (Nat.toDigits 10 (r.value / r.den)).length
  else -(leadingZeros r.den 400 r.value : Int)

/-- The value's neighbour on the grid of step `10 ^ step` that lies in the interval and is
nearest, if any. -/
def onGrid? (r : Reach) (step : Int) : Option Nat :=
  let up := if step ≥ 0 then Nat.pow 10 step.toNat else 1
  let scale := if step ≥ 0 then 1 else Nat.pow 10 (-step).toNat
  let k := r.value * scale / (r.den * up)
  let inside := fun j => r.has (j * up) scale
  let lowGap := r.value * scale - k * up * r.den
  let highGap := (k + 1) * up * r.den - r.value * scale
  if inside k && inside (k + 1) then
    if lowGap < highGap || (lowGap == highGap && k % 2 == 0) then some k else some (k + 1)
  else if inside k then some k
  else if inside (k + 1) then some (k + 1)
  else none

/-- The first hit among grids of `digits`, `digits + 1`, ... significant digits. -/
def search (r : Reach) (size : Int) : Nat → Nat → Nat × Int
  | 0, digits => (r.value / r.den, size - digits)
  | tries + 1, digits =>
    match r.onGrid? (size - digits) with
    | some k => (k, size - digits)
    | none => search r size tries (digits + 1)

/-- Drops trailing zeros, at most `fuel` of them. -/
def dropZeros : Nat → Nat × Int → Nat × Int
  | 0, p => p
  | fuel + 1, (n, e) => if n ≠ 0 && n % 10 = 0 then dropZeros fuel (n / 10, e + 1) else (n, e)

/-- The fewest digits that read back as the value, and the power of ten of the last digit. -/
def shortest (r : Reach) : Nat × Int := dropZeros 20 (search r r.magnitude 17 1)

end Reach

/-- The exponents of the leading digit that are written positionally. -/
def positional (e : Int) : Bool := -5 ≤ e && e ≤ 15

/-- The written form of `n * 10 ^ e`: positional with at least one digit on each side of the
point when the leading digit has a moderate exponent, else with an explicit exponent. -/
def write (n : Nat) (e : Int) : String :=
  let digits := Nat.toDigits 10 n
  let point : Int := digits.length + e
  let lead := point - 1
  let zeros := fun (k : Int) => List.replicate k.toNat '0'
  if positional lead then
    if e ≥ 0 then String.ofList (digits ++ zeros e) ++ ".0"
    else if point > 0 then
      String.ofList (digits.take point.toNat ++ '.' :: digits.drop point.toNat)
    else "0." ++ String.ofList (zeros (-point) ++ digits)
  else
    let mantissa :=
      match digits with
      | d :: [] => [d]
      | d :: rest => d :: '.' :: rest
      | [] => []
    String.ofList mantissa ++ "e" ++ (if lead < 0 then "-" else "+") ++ toString lead.natAbs

/-- The text of a finite number. -/
def plain (x : Float) : String :=
  let sign := if Binary.isNegative x then "-" else ""
  if Binary.exponentField x = 0 && Binary.fractionField x = 0 then sign ++ "0.0"
  else
    let (n, e) := (Reach.ofFloat x).shortest
    sign ++ write n e

end CloudStub.Decimal
