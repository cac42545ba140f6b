import Stencil.Filter.Typed
import Stencil.Text.Fields

/-!
# A gallery of filters

Filters beyond the standard ones, in three groups: functions on one kind of values, filters that
show what a filter can do to a rendering, and filters that take the place of standard ones.

## Main definitions

* `Filter.Gallery.typed`: functions on one kind of values
* `Filter.Gallery.plain`: filters on all values, one of which fails and one calls for a stop
* `Filter.Gallery.replacing`: other filters under standard names
-/

namespace Stencil.Filter.Gallery

/-- How often a number asks for something: the nearest whole number, halves counting away from zero,
and not at all if the number is negative, infinite or no number. -/
def times (x : Float) : Nat :=
  match Number.Binary.ofFloat x with
  | .finite d => if d.negative then 0 else d.roundedMagnitude
  | _ => 0

/-- What stands before and behind the first comma; without a comma, all and nothing. -/
def splitAtComma (s : String) : String × String :=
  let before := s.toList.takeWhile (· ≠ ',')
  (String.ofList before, String.ofList (s.toList.drop (before.length + 1)))

/-- Functions on one kind of values. -/
def typed : List Filter := [
  ofFunction "bracket" .string fun s => .string ("[" ++ s ++ "]"),
  ofFunction "double" .number fun x => .number (x * 2),
  ofFunction "head" .array fun items => items.headD .nothing,
  ofFunction₂ "repeat" .string .number fun s x =>
    .string (Text.repeated (times x) s),
  ofFunctionOpt "onoff" .bool .string fun b choices =>
    let (on, off) := splitAtComma (choices.getD "on,off")
    .string (if b then on else off),
  ofFunction "kind" .any fun v => .string v.typeName,
  ofFunction₂ "concat" .array .array fun xs ys => .array (xs ++ ys),
  ofFunction₂ "same" .bool .bool fun a b => .bool (a == b),
  ofFunctionOpt "pair" .any .any fun v arg => .array [v, arg.getD .nothing]]

/-- The error that a word asks for, on behalf of a value. -/
def failure (word : String) (v : Value) : RenderError :=
  match word with
  | "missing" => { fault := .missingVariable "from.filter" }
  | "unknown" => { fault := .unknownFilter "inner" }
  | "argument" => { fault := .filterArgument "fail" "dislikes its argument" }
  | "type" => { fault := .wrongType "unicorn" v.typeName }
  | "iter" => { fault := .notIterable v.typeName }
  | "pos" => { fault := .filterFailed "fail" "elsewhere", pos := some ⟨77, 7⟩ }
  | _ => { fault := .filterFailed "fail" v.text }

/-- Filters on all values. -/
def plain : List Filter := [
  total "wrap" .optional fun v arg =>
    let mark := (arg.map Value.text).getD "*"
    .string (mark ++ v.text ++ mark),
  total "id" .forbidden fun v _ => v,
  total "arg" .required fun _ arg => arg.getD (.string "no arg"),
  fallible "fail" .optional fun v arg => .error (failure ((arg.map Value.text).getD "") v),
  { name := "cancel", arg := .forbidden, apply := fun v _ => { result := .ok v, cancels := true } }]

/-- Other filters under standard names. -/
def replacing : List Filter := [
  total "upper" .optional fun _ _ => .string "replaced",
  total "default" .optional fun v arg =>
    .string (v.typeName ++ "<" ++ v.text ++ ">/" ++ (arg.map Value.text).getD "no arg")]

end Stencil.Filter.Gallery
