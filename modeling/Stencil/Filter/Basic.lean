import Stencil.Render.Error
import Stencil.Value

/-!
# Filters

A filter turns a value into another one, perhaps with the help of an argument. It may fail, and it
may ask for the rendering to be called off.

## Main definitions

* `ArgSpec`: whether a filter takes an argument
* `ArgSpec.problem?`: what is wrong with a call
* `Reply`: what a filter answers
* `Filter`: a named function on values
-/

namespace Stencil

/-- Whether a filter takes an argument. -/
inductive ArgSpec where
  | forbidden
  | optional
  | required
deriving DecidableEq, Repr

/-- What is wrong with a call that has, or has not, an argument; the words follow the name of the
filter. -/
def ArgSpec.problem? : ArgSpec → Bool → Option String
  | forbidden, true => some "takes no argument"
  | required, false => some "requires an argument"
  | _, _ => none

/-- What a filter answers: a value or an error, and whether it calls for the rendering to stop. -/
structure Reply where
  result : Except RenderError Value
  cancels : Bool := false

/-- A named function on values. -/
structure Filter where
  name : String
  arg : ArgSpec
  apply : Value → Option Value → Reply

namespace Filter

/-- A filter that always gives a value. -/
def total (name : String) (arg : ArgSpec) (f : Value → Option Value → Value) : Filter :=
  { name, arg, apply := fun v a => { result := .ok (f v a) } }

/-- A filter that gives a value or an error. -/
def fallible (name : String) (arg : ArgSpec) (f : Value → Option Value → Except RenderError Value) :
    Filter :=
  { name, arg, apply := fun v a => { result := f v a } }

end Filter

end Stencil
