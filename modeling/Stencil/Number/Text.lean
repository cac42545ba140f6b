import Stencil.Number.Shortest
import Stencil.Text.Fields

/-!
# The text of a number

A whole number below `2 ^ 63` is written as an integer, so that both zeros are `0`. Any other number
is written with the fewest digits that read back, in positional notation however many zeros that
takes.

## Main definitions

* `Decimal.text`: positional notation of a decimal
* `text`: the text of a number
* `ofDecimal`: the number that a decimal literal denotes
-/

namespace Stencil.Number

/-- Positional notation: the digits, with zeros as far as the point if they do not reach it. -/
def Decimal.text (d : Decimal) : String :=
  let digits := Nat.toDigits 10 d.digits
  if 0 ≤ d.exponent then
    String.ofList (digits ++ List.replicate d.exponent.toNat '0')
  else
    let places := (-d.exponent).toNat
    let padded := List.replicate (places + 1 - digits.length) '0' ++ digits
    let whole := padded.length - places
    String.ofList (padded.take whole ++ '.' :: padded.drop whole)

/-- The text of a finite number, without its sign. -/
def Dyadic.text (d : Dyadic) : String :=
  match d.magnitude? with
  | some n => if n < Nat.pow 2 63 then toString n else d.shortest.text
  | none => d.shortest.text

/-- The text of a number. -/
def text (x : Float) : String :=
  match Binary.ofFloat x with
  | .notNumber => "NaN"
  | .infinite negative => if negative then "-inf" else "inf"
  | .finite d => if d.negative && d.mantissa ≠ 0 then "-" ++ d.text else d.text

/-- The number nearest to `± digits / 10 ^ places`, infinite where that is out of range. -/
def ofDecimal (negative : Bool) (digits places : Nat) : Float :=
  let x := Float.ofScientific digits true places
  if negative then -x else x

end Stencil.Number
