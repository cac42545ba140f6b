import Stencil.Filter.Basic
import Stencil.Path
import Stencil.Program.Instruction

/-!
# Programs and their tables

A program is a list of statements, with tables of the paths and the filters that these refer to. A
path is entered once for every key, a filter once for every name, in the order in which they are met
first.

## Main definitions

* `PathTable`: paths by handle
* `PathTable.intern`: the handle of a path, which is entered if its key is new
* `Tables`: the paths and the filters of a program
* `Resolution`, `Tables.resolve`: how a variable is looked up
* `Program`: a compiled template

## Main results

* `PathTable.get?_intern`: the handle of a path refers to a path with its key
-/

namespace Stencil

/-- Paths by handle. -/
structure PathTable where
  paths : List Path := []

namespace PathTable

/-- The path with the given handle. -/
def get? (t : PathTable) (h : VariableHandle) : Option Path :=
  t.paths[h.index]?

/-- The handle of the path with the same key, if there is one. -/
def handle? (t : PathTable) (p : Path) : Option VariableHandle :=
  (t.paths.findIdx? (·.key = p.key)).map VariableHandle.mk

/-- The handle of a path, which is entered at the end if its key is new. -/
def intern (t : PathTable) (p : Path) : VariableHandle × PathTable :=
  match t.handle? p with
  | some h => (h, t)
  | none => (⟨t.paths.length⟩, ⟨t.paths ++ [p]⟩)

/-- A handle that is found refers to a path with the key that was looked for. -/
theorem get?_of_handle? {t : PathTable} {p : Path} {h : VariableHandle}
    (hh : t.handle? p = some h) : ∃ q, t.get? h = some q ∧ q.key = p.key := by
  simp only [handle?, Option.map_eq_some_iff] at hh
  obtain ⟨i, hi, rfl⟩ := hh
  obtain ⟨hlt, hkey, -⟩ := List.findIdx?_eq_some_iff_getElem.mp hi
  exact ⟨t.paths[i], List.getElem?_eq_getElem hlt, by simpa using hkey⟩

/-- The handle of a path refers to a path with its key. -/
theorem get?_intern (t : PathTable) (p : Path) :
    ∃ q, (t.intern p).2.get? (t.intern p).1 = some q ∧ q.key = p.key := by
  simp only [intern]
  split
  · next h hh => exact get?_of_handle? hh
  · exact ⟨p, by simp [get?], rfl⟩

end PathTable

/-- How a variable is looked up. -/
inductive Resolution where
  /-- The variable has to exist. -/
  | strict
  /-- The variable may be missing; the fallback then serves for it. -/
  | lenient (fallback : Option Expr)

namespace Resolution

/-- A lookup that may, or may not, ignore that a variable is missing. -/
def ofFlag (ignoreMissing : Bool) (fallback : Option Expr) : Resolution :=
  if ignoreMissing then lenient fallback else strict

/-- Whether the variable has to exist. -/
def isStrict : Resolution → Bool
  | strict => true
  | lenient _ => false

/-- The fallback of a lookup. -/
def fallback : Resolution → Option Expr
  | strict => none
  | lenient fallback => fallback

end Resolution

/-- The paths and the filters of a program. -/
structure Tables where
  paths : PathTable := {}
  filters : List Filter := []

namespace Tables

/-- The handle of a path. -/
def internPath (t : Tables) (p : Path) : VariableHandle × Tables :=
  let (h, paths) := t.paths.intern p
  (h, { t with paths := paths })

/-- The filter with the given handle. -/
def filter? (t : Tables) (h : FilterHandle) : Option Filter :=
  t.filters[h.index]?

/-- The handle of a filter, which is entered at the end if its name is new. -/
def internFilter (t : Tables) (f : Filter) : FilterHandle × Tables :=
  match t.filters.findIdx? (·.name = f.name) with
  | some i => (⟨i⟩, t)
  | none => (⟨t.filters.length⟩, { t with filters := t.filters ++ [f] })

/-- The lookup of a variable, at an unknown position. A fallback that surely counts as false is of
no use and dropped. -/
def resolve (t : Tables) (p : Path) (mode : Resolution) : Expr × Tables :=
  let (h, t) := t.internPath p
  match mode with
  | .strict => (.resolve h .unknown, t)
  | .lenient fallback => (.tryResolve h (fallback.filter Expr.mayBeTruthy) .unknown, t)

end Tables

/-- A compiled template: its statements and the tables they refer to. -/
structure Program where
  name : Option String
  body : List Stmt
  tables : Tables

end Stencil
