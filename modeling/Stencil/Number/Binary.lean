/-!
# The parts of a number

A number is a double of IEEE 754. Its bits give a sign, an exponent and a fraction, and these give
an exact dyadic rational unless the number is infinite or not a number.

## Main definitions

* `Binary`: what the bits of a number stand for
* `Binary.ofFloat`: the reading of the bits
* `Dyadic.magnitude?`: the absolute value, where it is a whole number
* `Dyadic.roundedMagnitude`: the whole number nearest to the absolute value
-/

namespace Stencil.Number

/-- The rational `± mantissa · 2 ^ (exponent - 1075)`, as the fields of a double give it. -/
structure Dyadic where
  negative : Bool
  mantissa : Nat
  /-- The biased exponent, at least one. -/
  exponent : Nat

/-- What the bits of a number stand for. -/
inductive Binary where
  | notNumber
  | infinite (negative : Bool)
  | finite (value : Dyadic)

/-- The reading of the bits of a number. A zero exponent field marks a subnormal number, which has
the smallest exponent and no leading one. -/
def Binary.ofFloat (x : Float) : Binary :=
  let bits := x.toBits.toNat
  let negative := bits / Nat.pow 2 63 % 2 = 1
  let field := bits / Nat.pow 2 52 % Nat.pow 2 11
  let fraction := bits % Nat.pow 2 52
  if field = Nat.pow 2 11 - 1 then
    if fraction = 0 then .infinite negative else .notNumber
  else if field = 0 then
    .finite ⟨negative, fraction, 1⟩
  else
    .finite ⟨negative, Nat.pow 2 52 + fraction, field⟩

namespace Dyadic

/-- The numerator of the absolute value over `d.denominator`. -/
def numerator (d : Dyadic) : Nat :=
  d.mantissa * Nat.pow 2 (d.exponent - 1075)

/-- The denominator of the absolute value under `d.numerator`. -/
def denominator (d : Dyadic) : Nat :=
  Nat.pow 2 (1075 - d.exponent)

/-- The absolute value, where it is a whole number. -/
def magnitude? (d : Dyadic) : Option Nat :=
  if d.numerator % d.denominator = 0 then some (d.numerator / d.denominator) else none

/-- The whole number nearest to the absolute value, the larger one of two that are equally near. -/
def roundedMagnitude (d : Dyadic) : Nat :=
  (2 * d.numerator + d.denominator) / (2 * d.denominator)

end Dyadic

end Stencil.Number
