/-!
# Shortest decimals

The decimal with the fewest digits that reads back as a given floating-point number. A positive
double is an integer times a power of two, and the reals that round to it form an interval around
it. Among the decimals of one digit, of two digits and so on, only the two neighbours of the number
can lie in that interval if any does; the first count of digits with a hit wins, and of two hits the
nearer one.

All comparisons are made between natural numbers over one common denominator.

## Main definitions

* `Binary` — a positive number as `mantissa · 2 ^ exponent`, with the interval that rounds to it.
* `shortest` — digits and scale of its shortest decimal.
-/

namespace ApiAnnotator.Decimal

/-- The positive number `mantissa · 2 ^ exponent`. -/
structure Binary where
  mantissa : Nat
  exponent : Int
  /-- Whether the next smaller number is only half as far away as the next greater one. -/
  atPowerOfTwo : Bool

/-- The magnitude of a finite number. -/
def Binary.ofFloat (x : Float) : Binary :=
  let bits := x.toBits.toNat
  let fraction : Nat := bits % Nat.pow 2 52
  let biased : Nat := bits / Nat.pow 2 52 % Nat.pow 2 11
  if biased = 0 then ⟨fraction, -1074, false⟩
  else ⟨Nat.pow 2 52 + fraction, (biased : Int) - 1075, fraction == 0 && biased != 1⟩

/-- A number and the ends of the interval that rounds to it, over a common denominator. -/
structure Rounding where
  low : Nat
  value : Nat
  high : Nat
  denominator : Nat
  /-- Whether the ends themselves round to the number. -/
  closed : Bool

/-- The interval of a number: it ends half way to the neighbours, and a half goes to the even
mantissa. -/
def Binary.rounding (b : Binary) : Rounding :=
  let up := Nat.pow 2 (b.exponent - 2).toNat
  let value := 4 * b.mantissa * up
  { low := value - (if b.atPowerOfTwo then 1 else 2) * up
    value
    high := value + 2 * up
    denominator := Nat.pow 2 (2 - b.exponent).toNat
    closed := b.mantissa % 2 == 0 }

/-- The same interval measured in units of `10 ^ scale`. -/
def Rounding.inUnits (r : Rounding) (scale : Int) : Rounding :=
  let up := Nat.pow 10 (-scale).toNat
  { r with
    low := r.low * up
    value := r.value * up
    high := r.high * up
    denominator := r.denominator * Nat.pow 10 scale.toNat }

/-- Whether the integer `n` rounds to the number. -/
def Rounding.admits (r : Rounding) (n : Nat) : Bool :=
  let scaled := n * r.denominator
  if r.closed then r.low ≤ scaled && scaled ≤ r.high else r.low < scaled && scaled < r.high

/-- The integer nearest to the number among those next to it that round to it. -/
def Rounding.nearest? (r : Rounding) : Option Nat :=
  let below := r.value / r.denominator
  let above := below + 1
  if r.admits below then
    let rest := 2 * (r.value % r.denominator)
    if r.admits above && (rest > r.denominator || (rest == r.denominator && below % 2 == 1)) then
      some above
    else some below
  else if r.admits above then some above
  else none

/-- The decimal exponent of the leading digit. -/
def Rounding.leadingPlace (r : Rounding) : Int :=
  (Nat.toDigits 10 (r.value * Nat.pow 10 340 / r.denominator)).length - 341

/-- The decimal `digits · 10 ^ scale`. -/
structure Numeral where
  digits : Nat
  scale : Int
  deriving DecidableEq

/-- The decimal `n · 10 ^ scale` for an `n` of `count` digits or the next power of ten. -/
def Numeral.ofDigits (count n : Nat) (scale : Int) : Numeral :=
  if n = Nat.pow 10 count then ⟨1, scale + count⟩ else ⟨n, scale⟩

/-- The shortest decimal that rounds to a positive finite number; seventeen digits always suffice.
-/
def shortest (x : Float) : Numeral :=
  let r := (Binary.ofFloat x).rounding
  let place := r.leadingPlace
  let attempt (count : Nat) : Option Numeral :=
    let scale := place - count + 1
    (r.inUnits scale).nearest?.map fun n => Numeral.ofDigits count n scale
  ((List.range' 1 17).findSome? attempt).getD ⟨r.value / r.denominator, 0⟩

end ApiAnnotator.Decimal
