import Stencil.Filter.Basic

/-!
# Filters on one kind of values

A filter is often a function on texts, numbers, truth values or sequences alone. Such a function
becomes a filter that checks its value, then its argument, and fails on any other kind.

## Main definitions

* `Kind`: the kind of values that a parameter takes
* `Filter.ofFunction`, `Filter.ofFunction₂`, `Filter.ofFunctionOpt`: filters from functions without
  argument, with an argument, and with an optional argument
-/

namespace Stencil

/-- A kind of values: its name, and the content of the values of that kind. -/
structure Kind (α : Type) where
  name : String
  content? : Value → Option α

namespace Kind

/-- Texts. -/
def string : Kind String := ⟨"string", Value.string?⟩

/-- Numbers. -/
def number : Kind Float := ⟨"number", Value.number?⟩

/-- Truth values. -/
def bool : Kind Bool := ⟨"bool", fun | .bool b => some b | _ => none⟩

/-- Sequences. -/
def array : Kind (List Value) := ⟨"array", Value.array?⟩

/-- All values. -/
def any : Kind Value := ⟨"value", some⟩

/-- The content of a value of this kind; any other value is an error. -/
def check {α : Type} (k : Kind α) (v : Value) : Except RenderError α :=
  match k.content? v with
  | some a => .ok a
  | none => .error { fault := .wrongType k.name v.typeName }

end Kind

namespace Filter

variable {α β : Type}

/-- The filter of a function without argument. -/
def ofFunction (name : String) (value : Kind α) (f : α → Value) : Filter :=
  fallible name .forbidden fun v _ => do
    let a ← value.check v
    return f a

/-- The filter of a function with an argument. -/
def ofFunction₂ (name : String) (value : Kind α) (argument : Kind β) (f : α → β → Value) :
    Filter :=
  fallible name .required fun v arg => do
    let a ← value.check v
    match arg with
    | some arg => return f a (← argument.check arg)
    | none => .error { fault := .filterArgument name "requires an argument" }

/-- The filter of a function with an optional argument. -/
def ofFunctionOpt (name : String) (value : Kind α) (argument : Kind β)
    (f : α → Option β → Value) : Filter :=
  fallible name .optional fun v arg => do
    let a ← value.check v
    match arg with
    | some arg => return f a (some (← argument.check arg))
    | none => return f a none

end Filter

end Stencil
