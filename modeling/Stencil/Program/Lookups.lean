import Stencil.Program.Tables

/-!
# Lookups of a program

The handles of all variables that a program looks up, in the order of its instructions. A fallback
is no lookup of its own.

## Main definitions

* `Expr.lookups`, `Stmt.lookups`, `Arms.lookups`: the lookups of instructions
* `Program.lookups`: the lookups of a program
-/

namespace Stencil

mutual

/-- The lookups of an expression. -/
def Expr.lookups : Expr → List VariableHandle
  | .literal _ _ => []
  | .resolve h _ => [h]
  | .tryResolve h _ _ => [h]
  | .filter _ input arg _ => Expr.lookups input ++ Expr.lookupsOpt arg
  | .not e _ => Expr.lookups e

/-- The lookups of an expression that may be lacking. -/
def Expr.lookupsOpt : Option Expr → List VariableHandle
  | none => []
  | some e => Expr.lookups e

end

mutual

/-- The lookups of a statement. -/
def Stmt.lookups : Stmt → List VariableHandle
  | .emit e _ => e.lookups
  | .text _ _ => []
  | .conditional arms _ => Arms.lookups arms
  | .loop _ iterable body empty _ =>
    iterable.lookups ++ Stmt.lookupsAll body ++ Stmt.lookupsAll empty

/-- The lookups of statements. -/
def Stmt.lookupsAll : List Stmt → List VariableHandle
  | [] => []
  | s :: rest => Stmt.lookups s ++ Stmt.lookupsAll rest

/-- The lookups of the bodies of a choice and their tests. -/
def Arms.lookups : Arms → List VariableHandle
  | .otherwise body => Stmt.lookupsAll body
  | .arm test body rest => test.lookups ++ Stmt.lookupsAll body ++ Arms.lookups rest

end

/-- The lookups of a program. -/
def Program.lookups (p : Program) : List VariableHandle :=
  Stmt.lookupsAll p.body

end Stencil
