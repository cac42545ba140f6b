import Stencil.Filter.Registry
import Stencil.Program.Tables
import Stencil.Program.CompileError
import Stencil.Template.Basic

/-!
# Compiling

A template is compiled node by node into statements, and the paths and filters on the way are
entered into tables. Filters are looked up, and their arguments checked, at this time. A block whose
output is sent through a filter has no statement, so a template with such a block cannot be
compiled.

## Main definitions

* `CompileOptions`: how templates are compiled and loaded
* `CompileM`: a part of a compilation
* `FilterExpr.compile`, `Condition.compile`, `Node.compile`, `Branches.compile`
* `Template.compile`: the program of a template

## Main results

* `FilterCall.check_eq_ok_iff`: which calls are in order
* `Template.compile_eq_ok_iff`: what the program of a template is made of
-/

namespace Stencil

/-- How templates are compiled and loaded. -/
structure CompileOptions where
  /-- Whether a template that cannot be compiled is kept as a tree. -/
  keepTrees : Bool := true
  /-- Whether the literal of a first `default` filter is the fallback of the variable before it. -/
  defaultAsFallback : Bool := true
deriving DecidableEq, Repr

/-- A part of a compilation: it enters paths and filters into the tables, and it may fail. -/
def CompileM (α : Type) : Type :=
  Tables → Except CompileError (α × Tables)

namespace CompileM

variable {α : Type}

instance : Monad CompileM where
  pure a := fun t => .ok (a, t)
  bind x f := fun t =>
    match x t with
    | .ok (a, t) => f a t
    | .error e => .error e

/-- A result that leaves the tables as they are. -/
def ofExcept (result : Except CompileError α) : CompileM α := fun t =>
  match result with
  | .ok a => .ok (a, t)
  | .error e => .error e

/-- Something that is entered into the tables. -/
def enter (f : Tables → α × Tables) : CompileM α := fun t =>
  .ok (f t)

end CompileM

/-- An operand, whose variable is looked up as `mode` says. -/
def Operand.compile (mode : Resolution) (o : Operand) : CompileM Expr :=
  match o.term with
  | .literal v => return .literal v (o.pos.getD .unknown)
  | .variable p => do
    let e ← CompileM.enter (·.resolve p mode)
    return e.withPos o.pos

/-- The argument of a filter, if there is one. -/
def FilterCall.compileArg (call : FilterCall) : CompileM (Option Expr) :=
  match call.arg with
  | none => return none
  | some arg => do
    let e ← arg.compile .strict
    return some e

/-- The filter of a call, if its name is known and its argument fits. -/
def FilterCall.check (r : Registry) (call : FilterCall) : Except CompileError Filter :=
  match r.get? call.name with
  | none => .error (.unknownFilter call.name (call.pos.getD .unknown))
  | some f =>
    match f.arg.problem? call.arg.isSome with
    | some problem => .error (.filterArity call.name problem (call.pos.getD .unknown))
    | none => .ok f

/-- A call is in order if the registry has the filter and the argument fits it. -/
theorem FilterCall.check_eq_ok_iff {r : Registry} {call : FilterCall} {f : Filter} :
    call.check r = .ok f ↔
      r.get? call.name = some f ∧ f.arg.problem? call.arg.isSome = none := by
  simp only [FilterCall.check]
  cases r.get? call.name with
  | none => simp
  | some g =>
    dsimp only
    constructor
    · intro h
      split at h
      · cases h
      · next hfits => exact ⟨congrArg some (Except.ok.inj h), Except.ok.inj h ▸ hfits⟩
    · rintro ⟨hg, hfits⟩
      obtain rfl := Option.some.inj hg
      rw [hfits]

/-- An input sent through a filter. -/
def FilterCall.compile (r : Registry) (call : FilterCall) (input : Expr) : CompileM Expr := do
  let f ← CompileM.ofExcept (call.check r)
  -- The filter has its handle before the variable of the argument gets one.
  let handle ← CompileM.enter (·.internFilter f)
  let arg ← call.compileArg
  return .filter handle input arg (call.pos.getD .unknown)

/-- An input sent through filters, from left to right. -/
def FilterCall.compileAll (r : Registry) : List FilterCall → Expr → CompileM Expr
  | [], input => return input
  | call :: rest, input => do
    let e ← call.compile r input
    compileAll r rest e

/-- An expression, whose variable is looked up as `mode` says. -/
def FilterExpr.compile (r : Registry) (mode : Resolution) (e : FilterExpr) : CompileM Expr := do
  let base ← e.base.compile mode
  FilterCall.compileAll r e.filters base

/-- The literal argument of a call of the filter `default`. -/
def FilterCall.fallback? (call : FilterCall) : Option Expr :=
  if call.name = "default" then
    match call.arg with
    | some ⟨.literal v, pos⟩ => some (.literal v (pos.getD .unknown))
    | _ => none
  else
    none

/-- The fallback for the variable of an expression: the literal argument of its first filter, if
that is called `default`. -/
def FilterExpr.fallback? (e : FilterExpr) : Option Expr :=
  e.filters.head?.bind FilterCall.fallback?

/-- How the variable of an expression that is written out is looked up. -/
def CompileOptions.outputMode (o : CompileOptions) (e : FilterExpr) : Resolution :=
  .lenient (if o.defaultAsFallback then e.fallback? else none)

/-- A condition as an expression. -/
def Condition.compile (r : Registry) (c : Condition) : CompileM Expr := do
  let test ← c.test.compile r (.lenient none)
  return if c.negated then .not test test.pos else test

mutual

/-- The statement of a node, if anything of the node remains. -/
def Node.compile (r : Registry) (o : CompileOptions) : Node → CompileM (Option Stmt)
  | .text content pos => return some (.text content (pos.getD .unknown))
  | .comment _ => return none
  | .output expr _ => do
    let e ← expr.compile r (o.outputMode expr)
    return some (.ofExpr e)
  | .conditional branches pos => do
    let arms ← Branches.compile r o branches
    return some (.conditional arms (pos.getD .unknown))
  | .loop binding iterable body empty pos => do
    let e ← iterable.compile r (.lenient none)
    let inner ← Node.compileAll r o body
    let lacking ← Node.compileOpt r o empty
    return some (.loop binding e inner lacking (pos.getD .unknown))
  -- The body is not looked at: whatever else is wrong in it, this is the error.
  | .filtered _ _ pos =>
    CompileM.ofExcept (.error (.unsupported "filter block" (pos.getD .unknown)))

/-- The statements of nodes. -/
def Node.compileAll (r : Registry) (o : CompileOptions) : List Node → CompileM (List Stmt)
  | [] => return []
  | n :: rest => do
    let stmt ← Node.compile r o n
    let stmts ← Node.compileAll r o rest
    return stmt.toList ++ stmts

/-- The statements of a body that may be lacking. -/
def Node.compileOpt (r : Registry) (o : CompileOptions) : Option (List Node) → CompileM (List Stmt)
  | none => return []
  | some body => Node.compileAll r o body

/-- The bodies of a choice. -/
def Branches.compile (r : Registry) (o : CompileOptions) : Branches → CompileM Arms
  | .none => return .otherwise []
  | .otherwise body => do
    let inner ← Node.compileAll r o body
    return .otherwise inner
  | .when test body rest => do
    let e ← test.compile r
    let inner ← Node.compileAll r o body
    let arms ← Branches.compile r o rest
    return .arm e inner arms

end

/-- The program of a template, under the name of the template if it has one. -/
def Template.compile (t : Template) (r : Registry) (o : CompileOptions) (name : Option String) :
    Except CompileError Program :=
  match Node.compileAll r o t {} with
  | .ok (body, tables) => .ok { name, body, tables }
  | .error e => .error e

namespace Template

variable {t : Template} {r : Registry} {o : CompileOptions} {name : Option String}

/-- The program of a template has the statements of its nodes, and the tables that are left. -/
theorem compile_eq_ok_iff {p : Program} :
    t.compile r o name = .ok p ↔
      p.name = name ∧ Node.compileAll r o t {} = .ok (p.body, p.tables) := by
  unfold compile
  obtain ⟨name', body', tables'⟩ := p
  rcases Node.compileAll r o t {} with e | ⟨body, tables⟩
  · simp
  · simp [eq_comm]

/-- A template fails to compile as its nodes do. -/
theorem compile_eq_error_iff {e : CompileError} :
    t.compile r o name = .error e ↔ Node.compileAll r o t {} = .error e := by
  unfold compile
  rcases Node.compileAll r o t {} with e' | ⟨body, tables⟩
  · simp
  · simp

end Template

end Stencil
