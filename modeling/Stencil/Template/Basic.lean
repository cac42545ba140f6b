import Stencil.Source.Position
import Stencil.Path
import Stencil.Value

/-!
# Templates

A template is a sequence of nodes: text that is copied, comments, values that are written out,
conditionals, loops, and blocks whose output is sent through a filter. What is read from a source
carries its position; a tree put together otherwise may lack positions.

## Main definitions

* `Operand`: a literal or a variable
* `FilterCall`: a filter by name, with its argument
* `FilterExpr`: an operand that is sent through filters
* `Condition`: an expression whose truth is tested, perhaps negated
* `Node`, `Branches`: the parts of a template
* `Template`: a sequence of nodes
* `FilterExpr.outerPos`: the position that an expression as a whole is known by
-/

namespace Stencil

/-- What an operand denotes: a literal value, or the value of a variable. -/
inductive Term where
  | literal (v : Value)
  | variable (p : Path)

/-- The path of a term that is a variable. -/
def Term.path? : Term → Option Path
  | .literal _ => none
  | .variable p => some p

/-- A term at its position. -/
structure Operand where
  term : Term
  pos : Option Position

/-- A filter by name, with its argument. -/
structure FilterCall where
  name : String
  arg : Option Operand
  pos : Option Position

/-- An operand that is sent through filters, from left to right. -/
structure FilterExpr where
  base : Operand
  filters : List FilterCall

/-- The position of the last filter, or of the operand if there are no filters. -/
def FilterExpr.outerPos (e : FilterExpr) : Option Position :=
  match e.filters.getLast? with
  | some call => call.pos
  | none => e.base.pos

/-- An expression whose truth is tested; `negated` asks for the opposite. -/
structure Condition where
  negated : Bool
  test : FilterExpr

mutual

/-- A part of a template. -/
inductive Node where
  /-- Text that is copied. -/
  | text (content : String) (pos : Option Position)
  /-- A comment, of which nothing remains. -/
  | comment (pos : Option Position)
  /-- A value that is written out. -/
  | output (expr : FilterExpr) (pos : Option Position)
  /-- A choice between bodies. -/
  | conditional (branches : Branches) (pos : Option Position)
  /-- A body for every item of a value, and perhaps another one for the lack of items. -/
  | loop (binding : String) (iterable : FilterExpr) (body : List Node)
      (empty : Option (List Node)) (pos : Option Position)
  /-- A body whose output is sent through a filter. -/
  | filtered (call : FilterCall) (body : List Node) (pos : Option Position)

/-- The branches of a choice, in the order in which they are tried. -/
inductive Branches where
  /-- No branch is left. -/
  | none
  /-- The body for the case that no test held. -/
  | otherwise (body : List Node)
  /-- A body with its test, before the other branches. -/
  | when (test : Condition) (body : List Node) (rest : Branches)

end

/-- A sequence of nodes. -/
abbrev Template := List Node

namespace Node

/-- The position of a node. -/
def pos : Node → Option Position
  | text _ pos => pos
  | comment pos => pos
  | output _ pos => pos
  | conditional _ pos => pos
  | loop _ _ _ _ pos => pos
  | filtered _ _ pos => pos

end Node

end Stencil
