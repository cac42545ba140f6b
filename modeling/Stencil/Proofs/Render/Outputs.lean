import Stencil.Render.Tree

/-!
# Rendering with another evaluation of outputs

Only in a value that is written out may a program depart from the tree it was compiled from. To say
where it does, the rendering of trees is given here with the evaluation of such values as a
parameter; tests, loops and blocks are rendered as before.

## Main definitions

* `Node.outputs`: the expressions that a node writes out
* `Node.renderWith ev`: the rendering of a node whose outputs are evaluated by `ev`
* `Operand.evalOr`: the value of an operand whose variable has a fallback
* `FilterExpr.standIn?`: the literal that may stand in for a missing variable
* `FilterExpr.evalStandIn`: the value of an expression whose missing variable has a stand-in
* `Template.renderStandIn`: the rendering of a template that uses stand-ins

## Main results

* `Node.renderAllWith_eval`: rendering is rendering with the evaluation of expressions
-/

namespace Stencil

/-! ## Outputs as a parameter -/

mutual

/-- The expressions that a node writes out. -/
def Node.outputs : Node → List FilterExpr
  | .text _ _ => []
  | .comment _ => []
  | .output expr _ => [expr]
  | .conditional branches _ => Branches.outputs branches
  | .loop _ _ body empty _ => Node.outputsAll body ++ Node.outputsOpt empty
  | .filtered _ body _ => Node.outputsAll body

/-- The expressions that nodes write out. -/
def Node.outputsAll : List Node → List FilterExpr
  | [] => []
  | n :: rest => Node.outputs n ++ Node.outputsAll rest

/-- The expressions that are written out in a body that may be lacking. -/
def Node.outputsOpt : Option (List Node) → List FilterExpr
  | none => []
  | some body => Node.outputsAll body

/-- The expressions that are written out in the branches of a choice. -/
def Branches.outputs : Branches → List FilterExpr
  | .none => []
  | .otherwise body => Node.outputsAll body
  | .when _ body rest => Node.outputsAll body ++ Branches.outputs rest

end

/-- The expressions that a template writes out. -/
def Template.outputs (t : Template) : List FilterExpr :=
  Node.outputsAll t

mutual

/-- The output of a node, where values that are written out are evaluated by `ev`. -/
def Node.renderWith (ev : FilterExpr → RenderM Value) (r : Registry) (o : Options) :
    Node → RenderM Unit
  | .comment _ => return ()
  | .text content pos =>
    RenderM.evaluation o (pos.getD .unknown) (RenderM.append content)
  | .output expr _ =>
    RenderM.evaluation o (expr.outerPos.getD .unknown) do
      let v ← ev expr
      RenderM.emit o v
  | .conditional branches pos =>
    RenderM.evaluation o (pos.getD .unknown) (Branches.renderWith ev r o branches)
  | .loop binding iterable body empty pos =>
    RenderM.evaluation o (pos.getD .unknown) do
      let items ← iterable.evalItems r
      match items with
      | [] => Node.renderOptWith ev r o empty
      | item :: rest => RenderM.forEach o binding (item :: rest) (Node.renderAllWith ev r o body)
  | .filtered call body pos =>
    RenderM.evaluation o (pos.getD .unknown) do
      let inner ← RenderM.captured (Node.renderAllWith ev r o body)
      let v ← call.apply r (.string inner)
      RenderM.append v.text

/-- The output of nodes, where values that are written out are evaluated by `ev`. -/
def Node.renderAllWith (ev : FilterExpr → RenderM Value) (r : Registry) (o : Options) :
    List Node → RenderM Unit
  | [] => return ()
  | n :: rest => do
    Node.renderWith ev r o n
    Node.renderAllWith ev r o rest

/-- The output of a body that may be lacking. -/
def Node.renderOptWith (ev : FilterExpr → RenderM Value) (r : Registry) (o : Options) :
    Option (List Node) → RenderM Unit
  | none => return ()
  | some body => Node.renderAllWith ev r o body

/-- The output of the first branch whose test holds. -/
def Branches.renderWith (ev : FilterExpr → RenderM Value) (r : Registry) (o : Options) :
    Branches → RenderM Unit
  | .none => return ()
  | .otherwise body => Node.renderAllWith ev r o body
  | .when test body rest => do
    let holds ← test.eval r
    if holds then Node.renderAllWith ev r o body else Branches.renderWith ev r o rest

end

section Eval

variable (r : Registry) (o : Options)

mutual

theorem Node.renderWith_eval (n : Node) : n.renderWith (FilterExpr.eval r) r o = n.render r o := by
  match n with
  | .comment pos => rw [Node.renderWith, Node.render]
  | .text content pos => rw [Node.renderWith, Node.render]
  | .output expr pos => rw [Node.renderWith, Node.render]
  | .conditional branches pos =>
    rw [Node.renderWith, Node.render, Branches.renderWith_eval branches]
  | .loop binding iterable body empty pos =>
    rw [Node.renderWith, Node.renderAllWith_eval body, Node.renderOptWith_eval empty]
    rfl
  | .filtered call body pos => rw [Node.renderWith, Node.render, Node.renderAllWith_eval body]

/-- **Rendering is rendering with the evaluation of expressions.** -/
theorem Node.renderAllWith_eval (ns : List Node) :
    Node.renderAllWith (FilterExpr.eval r) r o ns = Node.renderAll r o ns := by
  match ns with
  | [] => rw [Node.renderAllWith, Node.renderAll]
  | n :: rest =>
    rw [Node.renderAllWith, Node.renderAll, Node.renderWith_eval n, Node.renderAllWith_eval rest]

theorem Node.renderOptWith_eval (ns : Option (List Node)) :
    Node.renderOptWith (FilterExpr.eval r) r o ns = Node.renderOpt r o ns := by
  match ns with
  | none => rw [Node.renderOptWith, Node.renderOpt]
  | some body => rw [Node.renderOptWith, Node.renderOpt, Node.renderAllWith_eval body]

theorem Branches.renderWith_eval (b : Branches) :
    b.renderWith (FilterExpr.eval r) r o = b.render r o := by
  match b with
  | .none => rw [Branches.renderWith, Branches.render]
  | .otherwise body => rw [Branches.renderWith, Branches.render, Node.renderAllWith_eval body]
  | .when test body rest =>
    rw [Branches.renderWith, Branches.render, Node.renderAllWith_eval body,
      Branches.renderWith_eval rest]

end

end Eval

/-! ## Stand-ins for missing variables -/

/-- The value of an operand; for a missing variable the fallback serves. -/
def Operand.evalOr (fallback : Option Value) (o : Operand) : RenderM Value :=
  match o.term with
  | .literal v => return v
  | .variable p => RenderM.resolveOr p fallback

theorem Operand.evalOr_none (o : Operand) : o.evalOr none = o.eval := rfl

/-- The argument of a call of the filter `default`, if it is a literal that counts as true. -/
def FilterCall.standIn? (call : FilterCall) : Option Value :=
  if call.name = "default" then
    match call.arg with
    | some ⟨.literal v, _⟩ => if v.isTruthy then some v else none
    | _ => none
  else
    none

/-- What may stand in for the variable of an expression if it is missing: the argument of the first
filter, if that is called `default` and the argument is a literal that counts as true. -/
def FilterExpr.standIn? (e : FilterExpr) : Option Value :=
  match e.base.term with
  | .literal _ => none
  | .variable _ => e.filters.head?.bind FilterCall.standIn?

/-- The value of an expression, where the stand-in serves for a missing variable. All filters are
called as ever, `default` included. -/
def FilterExpr.evalStandIn (r : Registry) (e : FilterExpr) : RenderM Value := do
  let v ← e.base.evalOr e.standIn?
  FilterCall.applyAll r e.filters v

/-- The output of a template, where stand-ins serve for missing variables that are written out. -/
def Template.renderStandIn (t : Template) (r : Registry) (o : Options) : RenderM Unit :=
  Node.renderAllWith (FilterExpr.evalStandIn r) r o t

theorem FilterExpr.standIn?_eq_some {e : FilterExpr} {v : Value} (h : e.standIn? = some v) :
    v.isTruthy = true ∧ (∃ p, e.base.term = .variable p) ∧
      ∃ call rest pos, e.filters = call :: rest ∧ call.name = "default" ∧
        call.arg = some ⟨.literal v, pos⟩ := by
  rw [FilterExpr.standIn?] at h
  split at h
  · cases h
  · next p hp =>
    obtain ⟨call, hcall, hv⟩ := Option.bind_eq_some_iff.mp h
    obtain ⟨rest, hrest⟩ := List.head?_eq_some_iff.mp hcall
    rw [FilterCall.standIn?] at hv
    split at hv
    · next hname =>
      split at hv
      · next w pos harg =>
        split at hv
        · next hw =>
          obtain rfl := Option.some.inj hv
          exact ⟨hw, ⟨p, hp⟩, call, rest, pos, hrest, hname, harg⟩
        · cases hv
      · cases hv
    · cases hv

/-- Without a stand-in, nothing serves for a missing variable. -/
theorem FilterExpr.evalStandIn_of_eq_none {e : FilterExpr} (h : e.standIn? = none)
    (r : Registry) : e.evalStandIn r = e.eval r := by
  rw [FilterExpr.evalStandIn, h, Operand.evalOr_none]
  rfl

end Stencil
