import Stencil.Number.Binary

/-!
# Shortest decimals

The decimal with the fewest digits among those that read back as a given double. A double is read
from every real that lies nearer to it than to its neighbours; of the two reals halfway to a
neighbour it is read from both when its mantissa is even and from neither otherwise. On the grid of
the multiples of a power of ten only the two points around the value can be nearest, so it suffices
to test these two on coarse grids first.

## Main definitions

* `Decimal`: a whole number of units of a power of ten
* `Interval`: a value together with the reals that round to it
* `Interval.pick?`: the point of a decimal grid that rounds to the value
* `Dyadic.shortest`: the shortest decimal of a positive double
-/

namespace Stencil.Number

/-- The rational `digits · 10 ^ exponent`. -/
structure Decimal where
  digits : Nat
  exponent : Int
deriving DecidableEq, Repr

/-- The rationals `low / unit`, `value / unit` and `high / unit`: a value and the ends of the reals
that round to it. -/
structure Interval where
  low : Nat
  value : Nat
  high : Nat
  unit : Nat
  /-- Whether the ends themselves round to the value. -/
  closed : Bool

/-- The reals that round to a positive double, in quarters of the last place of its mantissa. Below
a power of two the neighbour is nearer by half. -/
def Dyadic.interval (d : Dyadic) : Interval :=
  let scale := Nat.pow 2 (d.exponent - 1077)
  let below := if d.mantissa = Nat.pow 2 52 ∧ 1 < d.exponent then 1 else 2
  { low := (4 * d.mantissa - below) * scale
    value := 4 * d.mantissa * scale
    high := (4 * d.mantissa + 2) * scale
    unit := Nat.pow 2 (1077 - d.exponent)
    closed := d.mantissa % 2 = 0 }

namespace Interval

/-- Whether `count` units of `10 ^ grid` round to the value. -/
def holds (i : Interval) (grid : Int) (count : Nat) : Bool :=
  let point := count * Nat.pow 10 grid.toNat * i.unit
  let shift := Nat.pow 10 (-grid).toNat
  if i.closed then
    i.low * shift ≤ point && point ≤ i.high * shift
  else
    i.low * shift < point && point < i.high * shift

/-- The point of the grid of the multiples of `10 ^ grid` that rounds to the value: of two such
points the nearer one, and the upper one if both are equally near. -/
def pick? (i : Interval) (grid : Int) : Option Decimal :=
  let step := i.unit * Nat.pow 10 grid.toNat
  let value := i.value * Nat.pow 10 (-grid).toNat
  -- Only the two neighbours of the value on the grid can be nearest to it.
  let count := value / step
  let nearerBelow := 2 * (value % step) < step
  match i.holds grid count, i.holds grid (count + 1) with
  | true, true => some ⟨if nearerBelow then count else count + 1, grid⟩
  | true, false => some ⟨count, grid⟩
  | false, true => some ⟨count + 1, grid⟩
  | false, false => none

/-- The first hit on the grids `10 ^ grid`, `10 ^ (grid - 1)`, …, at most `tries` of them. -/
def search (i : Interval) : Nat → Int → Option Decimal
  | 0, _ => none
  | tries + 1, grid =>
    match i.pick? grid with
    | some d => some d
    | none => i.search tries (grid - 1)

/-- The number of decimal digits of `n`, which has at most `fuel` of them. -/
def digitCount : Nat → Nat → Nat
  | 0, _ => 0
  | fuel + 1, n => if n = 0 then 0 else digitCount fuel (n / 10) + 1

/-- The number of zeros after the point before the first digit of `value / unit`, at most `fuel`. -/
def leadingZeros (unit : Nat) : Nat → Nat → Nat
  | 0, _ => 0
  | fuel + 1, value => if 10 * value < unit then leadingZeros unit fuel (10 * value) + 1 else 0

/-- The least power of ten above the value; no double needs more than 400 places on either side. -/
def ceiling (i : Interval) : Int :=
  if i.unit ≤ i.value then
    digitCount 400 (i.value / i.unit)
  else
    -leadingZeros i.unit 400 i.value

end Interval

/-- The shortest decimal that reads back as a positive double. Seventeen digits always suffice. -/
def Dyadic.shortest (d : Dyadic) : Decimal :=
  (d.interval.search 18 d.interval.ceiling).getD ⟨0, 0⟩

end Stencil.Number
