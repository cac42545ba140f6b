import Stencil.Render.Error

/-!
# Options of rendering

How values are written out, and when a rendering is cut short.

## Main definitions

* `Options`: the options of one rendering
* `Options.admitsEvaluation`, `Options.admitsIteration`: whether a rendering may go on
-/

namespace Stencil

/-- The options of one rendering. -/
structure Options where
  /-- Whether values are escaped for HTML. -/
  autoescape : Bool := true
  /-- How many nodes may be evaluated. -/
  maxEvaluations : Option Nat := none
  /-- How many turns loops may take, all together. -/
  maxIterations : Option Nat := none
  /-- Whether the rendering heeds a call to stop. -/
  cancellable : Bool := false
deriving DecidableEq, Repr

namespace Options

/-- Whether evaluation number `count` may take place, `cancelled` telling if there was a call to
stop. The limit is looked at first. -/
def admitsEvaluation (o : Options) (count : Nat) (cancelled : Bool) : Except RenderError Unit :=
  let heed : Except RenderError Unit :=
    if o.cancellable && cancelled then
      .error { fault := .cancelled "render cancelled" }
    else
      .ok ()
  match o.maxEvaluations with
  | some max => if max < count then .error { fault := .tooManyEvaluations max } else heed
  | none => heed

/-- Whether turn number `count` may take place. -/
def admitsIteration (o : Options) (count : Nat) : Except RenderError Unit :=
  match o.maxIterations with
  | some max => if max < count then .error { fault := .tooManyIterations max } else .ok ()
  | none => .ok ()

/-- A limit, or the lack of one. -/
def limitText : Option Nat → String
  | some max => "Some(" ++ toString max ++ ")"
  | none => "None"

/-- The options field by field. -/
def text (o : Options) : String :=
  "RenderOptions \x7b autoescape: " ++ toString o.autoescape ++
    ", max_node_evaluations: " ++ limitText o.maxEvaluations ++
    ", max_iterations: " ++ limitText o.maxIterations ++
    ", cancellation_token: " ++ toString o.cancellable ++ " \x7d"

end Options

end Stencil
