import Stencil.Source.Position
import Stencil.Value

/-!
# Instructions

A compiled template is a list of statements, which contain expressions. Variables and filters are
referred to by handles into the tables of the program. Every instruction has the position of the
part of the template that it came from; it is unknown for parts without position. Handles are
numbers without a bound: kept in words of 32 bits, they are the same for tables of up to `2 ^ 32`
entries.

## Main definitions

* `VariableHandle`, `FilterHandle`: places in the tables of a program
* `Expr`: how a value is computed
* `Stmt`, `Arms`: what is done with values
* `Expr.withPos`, `Stmt.withPos`: the same instruction at another position
-/

namespace Stencil

/-- The place of a path in the table of paths. -/
structure VariableHandle where
  index : Nat
deriving DecidableEq, Repr

/-- What a handle of a variable is called. -/
def VariableHandle.text (h : VariableHandle) : String :=
  "ivar#" ++ toString h.index

/-- The place of a filter in the table of filters. -/
structure FilterHandle where
  index : Nat
deriving DecidableEq, Repr

/-- How a value is computed. -/
inductive Expr where
  /-- A value that is given. -/
  | literal (v : Value) (pos : Position)
  /-- The value of a variable that has to exist. -/
  | resolve (handle : VariableHandle) (pos : Position)
  /-- The value of a variable, or of the fallback if there is no such variable. -/
  | tryResolve (handle : VariableHandle) (fallback : Option Expr) (pos : Position)
  /-- A value sent through a filter. -/
  | filter (handle : FilterHandle) (input : Expr) (arg : Option Expr) (pos : Position)
  /-- The opposite of the truth of a value. -/
  | not (e : Expr) (pos : Position)

namespace Expr

/-- The position of an expression. -/
def pos : Expr → Position
  | literal _ pos => pos
  | resolve _ pos => pos
  | tryResolve _ _ pos => pos
  | filter _ _ _ pos => pos
  | not _ pos => pos

/-- The same expression at the given position; the position of something without position is
unknown. -/
def withPos (pos : Option Position) : Expr → Expr
  | literal v _ => literal v (pos.getD .unknown)
  | resolve handle _ => resolve handle (pos.getD .unknown)
  | tryResolve handle fallback _ => tryResolve handle fallback (pos.getD .unknown)
  | filter handle input arg _ => filter handle input arg (pos.getD .unknown)
  | not e _ => not e (pos.getD .unknown)

/-- Whether an expression may count as true, as far as is known without computing it. -/
def mayBeTruthy : Expr → Bool
  | literal v _ => v.isTruthy
  | _ => true

@[simp] theorem pos_withPos (pos : Option Position) (e : Expr) :
    (e.withPos pos).pos = pos.getD .unknown := by
  cases e <;> rfl

end Expr

mutual

/-- What is done with values. -/
inductive Stmt where
  /-- A value is written out. -/
  | emit (e : Expr) (pos : Position)
  /-- A text is copied. -/
  | text (content : String) (pos : Position)
  /-- One of several bodies is chosen. -/
  | conditional (arms : Arms) (pos : Position)
  /-- A body is executed for every item of a value, another one for the lack of items. -/
  | loop (binding : String) (iterable : Expr) (body empty : List Stmt) (pos : Position)

/-- The bodies of a choice, in the order in which they are tried. -/
inductive Arms where
  /-- The body for the case that no test held. -/
  | otherwise (body : List Stmt)
  /-- A body with its test, before the other ones. -/
  | arm (test : Expr) (body : List Stmt) (rest : Arms)

end

namespace Stmt

/-- The position of a statement. -/
def pos : Stmt → Position
  | emit _ pos => pos
  | text _ pos => pos
  | conditional _ pos => pos
  | loop _ _ _ _ pos => pos

/-- The same statement at the given position. -/
def withPos (pos : Option Position) : Stmt → Stmt
  | emit e _ => emit e (pos.getD .unknown)
  | text content _ => text content (pos.getD .unknown)
  | conditional arms _ => conditional arms (pos.getD .unknown)
  | loop binding iterable body empty _ => loop binding iterable body empty (pos.getD .unknown)

/-- The statement that writes out the value of an expression, at the position of the expression. -/
def ofExpr (e : Expr) : Stmt :=
  emit e e.pos

end Stmt

end Stencil
