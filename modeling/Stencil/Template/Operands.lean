import Stencil.Template.Basic

/-!
# Operands of a template

All literals and variables of a template, in the order in which the template is read; the argument
of a filter that a block is sent through comes after the block, as it is evaluated then.

## Main definitions

* `FilterExpr.operands`: the base and the arguments of the filters
* `Node.operands`, `Node.operandsAll`, `Branches.operands`: the operands of the parts of a template
-/

namespace Stencil

/-- The base and the arguments of the filters. -/
def FilterExpr.operands (e : FilterExpr) : List Operand :=
  e.base :: e.filters.filterMap FilterCall.arg

mutual

/-- The operands of a node. -/
def Node.operands : Node → List Operand
  | .text _ _ => []
  | .comment _ => []
  | .output expr _ => expr.operands
  | .conditional branches _ => Branches.operands branches
  | .loop _ iterable body empty _ =>
    iterable.operands ++ Node.operandsAll body ++ Node.operandsOpt empty
  | .filtered call body _ => Node.operandsAll body ++ call.arg.toList

/-- The operands of nodes. -/
def Node.operandsAll : List Node → List Operand
  | [] => []
  | n :: rest => Node.operands n ++ Node.operandsAll rest

/-- The operands of a body that may be lacking. -/
def Node.operandsOpt : Option (List Node) → List Operand
  | none => []
  | some body => Node.operandsAll body

/-- The operands of the branches of a choice. -/
def Branches.operands : Branches → List Operand
  | .none => []
  | .otherwise body => Node.operandsAll body
  | .when test body rest => test.test.operands ++ Node.operandsAll body ++ Branches.operands rest

end

/-- The operands of a template. -/
def Template.operands (t : Template) : List Operand :=
  Node.operandsAll t

end Stencil
