import Stencil.Text.Character
import Stencil.Text.Fields

/-!
# Variable paths

A variable is referred to by a path such as `user.address.city`: the name of a variable, and then
the keys or indices that lead into its value.

## Main definitions

* `Path`: a nonempty sequence of segments
* `Path.key`: the segments with dots between them
* `Path.ofDotted`, `Path.parse?`: a path from its text
* `Path.ofSegments?`: a path from its segments
-/

namespace Stencil

/-- A variable name and the segments that lead into its value. -/
structure Path where
  head : String
  rest : List String
deriving DecidableEq, Repr

namespace Path

/-- All segments, the variable name first. -/
def segments (p : Path) : List String :=
  p.head :: p.rest

/-- The segments with dots between them. -/
def key (p : Path) : String :=
  Text.joined "." p.segments

/-- The path with the given segments. Segments are not empty, and there is at least one. -/
def ofSegments? (segments : List String) : Option Path :=
  if segments.contains "" then
    none
  else
    match segments with
    | [] => none
    | head :: rest => some ⟨head, rest⟩

/-- The path whose segments are the pieces of a text between its dots. -/
def ofDotted (s : String) : Path :=
  match Text.fields '.' s with
  | [] => ⟨s, []⟩
  | head :: rest => ⟨head, rest⟩

/-- The path that a text spells, blanks at its ends aside. No piece between dots may be empty. -/
def parse? (s : String) : Option Path :=
  ofSegments? (Text.fields '.' (Text.trim s))

end Path

end Stencil
