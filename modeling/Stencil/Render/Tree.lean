import Stencil.Render.Run
import Stencil.Template.Basic

/-!
# Rendering a tree

A template is rendered by walking its tree. A variable that is written out, tested or run through
may be missing, and then counts as absent; a variable that is the argument of a filter has to exist.

## Main definitions

* `FilterExpr.eval`: the value of an expression
* `Condition.eval`: whether a condition holds
* `Node.render`, `Node.renderAll`, `Branches.render`: the output of the parts of a template
* `Template.render`: the output of a template
-/

namespace Stencil

/-- The value of an operand; a missing variable counts as absent. -/
def Operand.eval (o : Operand) : RenderM Value :=
  match o.term with
  | .literal v => return v
  | .variable p => RenderM.resolveOr p none

/-- The value of an operand; a missing variable is an error. -/
def Operand.evalStrict (o : Operand) : RenderM Value :=
  match o.term with
  | .literal v => return v
  | .variable p => RenderM.located (o.pos.getD .unknown) (RenderM.resolve p)

/-- The value of the argument of a filter, if there is one. -/
def FilterCall.evalArg (call : FilterCall) : RenderM (Option Value) :=
  match call.arg with
  | none => return none
  | some arg => do
    let v ← arg.evalStrict
    return some v

/-- A value sent through a filter. -/
def FilterCall.apply (r : Registry) (call : FilterCall) (v : Value) : RenderM Value := do
  let arg ← call.evalArg
  RenderM.located (call.pos.getD .unknown) (r.call call.name v arg)

/-- A value sent through filters, from left to right. -/
def FilterCall.applyAll (r : Registry) : List FilterCall → Value → RenderM Value
  | [], v => return v
  | call :: rest, v => do
    let w ← call.apply r v
    applyAll r rest w

/-- The value of an expression. -/
def FilterExpr.eval (r : Registry) (e : FilterExpr) : RenderM Value := do
  let v ← e.base.eval
  FilterCall.applyAll r e.filters v

/-- Whether a condition holds. -/
def Condition.eval (r : Registry) (c : Condition) : RenderM Bool := do
  let v ← c.test.eval r
  return v.isTruthy != c.negated

/-- The items that a loop over an expression runs through. -/
def FilterExpr.evalItems (r : Registry) (e : FilterExpr) : RenderM (List Value) := do
  let v ← e.eval r
  RenderM.located (e.outerPos.getD .unknown) (RenderM.itemsOf v)

mutual

/-- The output of a node. Nothing remains of a comment, and it does not count as an evaluation. -/
def Node.render (r : Registry) (o : Options) : Node → RenderM Unit
  | .comment _ => return ()
  | .text content pos =>
    RenderM.evaluation o (pos.getD .unknown) (RenderM.append content)
  | .output expr _ =>
    RenderM.evaluation o (expr.outerPos.getD .unknown) do
      let v ← expr.eval r
      RenderM.emit o v
  | .conditional branches pos =>
    RenderM.evaluation o (pos.getD .unknown) (Branches.render r o branches)
  | .loop binding iterable body empty pos =>
    RenderM.evaluation o (pos.getD .unknown) do
      let items ← iterable.evalItems r
      match items with
      | [] => Node.renderOpt r o empty
      | item :: rest => RenderM.forEach o binding (item :: rest) (Node.renderAll r o body)
  | .filtered call body pos =>
    RenderM.evaluation o (pos.getD .unknown) do
      -- The body has been escaped already, so the outcome of the filter is not.
      let inner ← RenderM.captured (Node.renderAll r o body)
      let v ← call.apply r (.string inner)
      RenderM.append v.text

/-- The output of nodes, one behind the other. -/
def Node.renderAll (r : Registry) (o : Options) : List Node → RenderM Unit
  | [] => return ()
  | n :: rest => do
    Node.render r o n
    Node.renderAll r o rest

/-- The output of a body that may be lacking. -/
def Node.renderOpt (r : Registry) (o : Options) : Option (List Node) → RenderM Unit
  | none => return ()
  | some body => Node.renderAll r o body

/-- The output of the first branch whose test holds. -/
def Branches.render (r : Registry) (o : Options) : Branches → RenderM Unit
  | .none => return ()
  | .otherwise body => Node.renderAll r o body
  | .when test body rest => do
    let holds ← test.eval r
    if holds then Node.renderAll r o body else Branches.render r o rest

end

/-- The output of a template. -/
def Template.render (t : Template) (r : Registry) (o : Options) : RenderM Unit :=
  Node.renderAll r o t

end Stencil
