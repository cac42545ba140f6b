import Stencil.Program.Tables
import Stencil.Render.Run

/-!
# Executing a program

The statements of a program are executed one after the other. A handle outside the tables, which no
compiled program has, refers to a variable or a filter that does not exist.

## Main definitions

* `Expr.eval`: the value of an expression
* `Stmt.exec`, `Stmt.execAll`, `Arms.exec`: the effect of statements
* `Program.execute`: the output of a program
-/

namespace Stencil

/-- The value of a variable that has to exist. -/
def Tables.evalVariable (t : Tables) (h : VariableHandle) : RenderM Value :=
  match t.paths.get? h with
  | some p => RenderM.resolve p
  | none => RenderM.ofExcept (.error { fault := .missingVariable h.text })

/-- The value of a variable, or the fallback if there is no such variable. -/
def Tables.evalVariableOr (t : Tables) (h : VariableHandle) (fallback : Option Value) :
    RenderM Value :=
  match t.paths.get? h with
  | some p => RenderM.resolveOr p fallback
  | none => return fallback.getD .nothing

/-- A value sent through a filter, whose argument was checked before. -/
def Tables.callFilter (t : Tables) (h : FilterHandle) (v : Value) (arg : Option Value) :
    RenderM Value :=
  match t.filter? h with
  | some f => f.call v arg
  | none => RenderM.ofExcept (.error { fault := .unknownFilter (toString h.index) })

mutual

/-- The value of an expression. -/
def Expr.eval (t : Tables) : Expr → RenderM Value
  | .literal v _ => return v
  | .resolve h pos => RenderM.located pos (t.evalVariable h)
  | .tryResolve h fallback _ => do
    let v ← Expr.evalOpt t fallback
    t.evalVariableOr h v
  | .filter h input arg pos => do
    let v ← Expr.eval t input
    let a ← Expr.evalOpt t arg
    RenderM.located pos (t.callFilter h v a)
  | .not e _ => do
    let v ← Expr.eval t e
    return .bool (!v.isTruthy)

/-- The value of an expression that may be lacking. -/
def Expr.evalOpt (t : Tables) : Option Expr → RenderM (Option Value)
  | none => return none
  | some e => do
    let v ← Expr.eval t e
    return some v

end

/-- The items that a loop over an expression runs through. -/
def Expr.evalItems (t : Tables) (e : Expr) : RenderM (List Value) := do
  let v ← e.eval t
  RenderM.located e.pos (RenderM.itemsOf v)

mutual

/-- The effect of a statement. -/
def Stmt.exec (t : Tables) (o : Options) : Stmt → RenderM Unit
  | .text content pos => RenderM.evaluation o pos (RenderM.append content)
  | .emit e pos =>
    RenderM.evaluation o pos do
      let v ← e.eval t
      RenderM.emit o v
  | .conditional arms pos => RenderM.evaluation o pos (Arms.exec t o arms)
  | .loop binding iterable body empty pos =>
    RenderM.evaluation o pos do
      let items ← iterable.evalItems t
      match items with
      | [] => Stmt.execAll t o empty
      | item :: rest => RenderM.forEach o binding (item :: rest) (Stmt.execAll t o body)

/-- The effect of statements, one after the other. -/
def Stmt.execAll (t : Tables) (o : Options) : List Stmt → RenderM Unit
  | [] => return ()
  | s :: rest => do
    Stmt.exec t o s
    Stmt.execAll t o rest

/-- The effect of the first body whose test holds. -/
def Arms.exec (t : Tables) (o : Options) : Arms → RenderM Unit
  | .otherwise body => Stmt.execAll t o body
  | .arm test body rest => do
    let v ← test.eval t
    if v.isTruthy then Stmt.execAll t o body else Arms.exec t o rest

end

/-- The output of a program. -/
def Program.execute (p : Program) (o : Options) : RenderM Unit :=
  Stmt.execAll p.tables o p.body

end Stencil
