import Stencil.Bindings
import Stencil.Filter.Basic

/-!
# Registries

The filters that templates can call, by name.

## Main definitions

* `Registry`: filters by name
* `Registry.register`: a further filter, in place of one with the same name
* `Registry.select`: the filter of a call, whose argument is checked
* `Registry.apply`: the answer of the filter of a call
-/

namespace Stencil

/-- Filters by name: each stands under the name it calls its own. -/
structure Registry where
  filters : Bindings Filter
  named : ∀ name f, filters.get? name = some f → f.name = name

namespace Registry

/-- No filters. -/
def empty : Registry where
  filters := .empty
  named := by simp

/-- One more filter, in place of the one with the same name. -/
def register (r : Registry) (f : Filter) : Registry where
  filters := r.filters.insert f.name f
  named name g h := by
    rw [Bindings.get?_insert] at h
    split at h
    · next hname => rw [← Option.some.inj h, hname]
    · exact r.named name g h

/-- Further filters, one after the other. -/
def registerAll (r : Registry) (fs : List Filter) : Registry :=
  fs.foldl register r

/-- The filter with the given name. -/
def get? (r : Registry) (name : String) : Option Filter :=
  r.filters.get? name

/-- The names of all filters, sorted. -/
def names (r : Registry) : List String :=
  (r.filters.entries.map (·.1)).mergeSort (fun a b => !(b < a))

/-- The filter of a call that has, or has not, an argument. -/
def select (r : Registry) (name : String) (hasArg : Bool) : Except RenderError Filter :=
  match r.get? name with
  | none => .error { fault := .unknownFilter name }
  | some f =>
    match f.arg.problem? hasArg with
    | some problem => .error { fault := .filterArgument name problem }
    | none => .ok f

/-- The answer of the filter of a call. -/
def apply (r : Registry) (name : String) (v : Value) (arg : Option Value) :
    Except RenderError Value :=
  match r.select name arg.isSome with
  | .ok f => (f.apply v arg).result
  | .error e => .error e

/-- The names of all filters, in brackets. -/
def text (r : Registry) : String :=
  let quoted := r.names.map fun name => "\"" ++ name ++ "\""
  "Registry \x7b filters: [" ++ ", ".intercalate quoted ++ "] \x7d"

@[simp] theorem get?_register (r : Registry) (f : Filter) (name : String) :
    (r.register f).get? name = if name = f.name then some f else r.get? name :=
  Bindings.get?_insert r.filters f.name name f

/-- The filter of a call is the one under its name. -/
theorem get?_of_select {r : Registry} {name : String} {hasArg : Bool} {f : Filter}
    (h : r.select name hasArg = .ok f) : r.get? name = some f := by
  rw [select] at h
  split at h
  · cases h
  · next g hg =>
    split at h
    · cases h
    · rw [hg, Except.ok.inj h]

/-- A filter that is found calls itself by the name it was looked for under. -/
theorem name_of_get? {r : Registry} {name : String} {f : Filter} (h : r.get? name = some f) :
    f.name = name :=
  r.named name f h

end Registry

end Stencil
