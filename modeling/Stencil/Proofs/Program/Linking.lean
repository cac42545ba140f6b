import Stencil.Program.Lookups
import Stencil.Proofs.Program.Tables
import Stencil.Template.Operands

/-!
# References and handles

A template refers to variables by their paths and to filters by their names. A compilation goes
through these references in a fixed order, enters each of them into the tables, and puts the handle
that it is given in the place of the reference. So the tables of a program and all of its handles
are told by the references of the template alone, as the relation `Tables.Links` says; whatever is
known of handles and tables is an induction on that relation.

## Main definitions

* `Reference`, `Template.references`: what a template refers to, in the order of its compilation
* `Handle`, `Program.handles`: the handles of a program, in the order of its instructions
* `Tables.Links r t refs hs u`: entering the references `refs` into `t` gives the handles `hs` and
  leaves the tables `u`
* `Handle.Carries`: instructions have the given handles, and those of variables are their lookups
* `CompileM.Enters r x refs P`: a part of a compilation that enters the references `refs`

## Main results

* `Tables.Links.append`: references one after the other
* `Node.enters_compileAll`: the statements of nodes carry the handles of the references of the nodes
* `Template.links_compile`: a compilation enters the references of its template in order
-/

namespace Stencil

/-! ## References of a template -/

/-- What a template refers to: a variable by its path, or a filter by its name. -/
inductive Reference where
  | variable (p : Path)
  | filter (name : String)
deriving DecidableEq, Repr

namespace Reference

/-- The path of a reference to a variable. -/
def path? : Reference → Option Path
  | .variable p => some p
  | .filter _ => none

/-- The name of a reference to a filter. -/
def filterName? : Reference → Option String
  | .variable _ => none
  | .filter name => some name

end Reference

/-- The references of an operand: a literal has none. -/
def Operand.references (x : Operand) : List Reference :=
  match x.term with
  | .literal _ => []
  | .variable p => [.variable p]

/-- The references of a call: the filter comes before its argument. -/
def FilterCall.references (call : FilterCall) : List Reference :=
  .filter call.name :: call.arg.toList.flatMap Operand.references

/-- The references of an expression: the base comes before the filters. -/
def FilterExpr.references (e : FilterExpr) : List Reference :=
  e.base.references ++ e.filters.flatMap FilterCall.references

mutual

/-- The references of a node. -/
def Node.references : Node → List Reference
  | .text _ _ => []
  | .comment _ => []
  | .output expr _ => expr.references
  | .conditional branches _ => Branches.references branches
  | .loop _ iterable body empty _ =>
    iterable.references ++ Node.referencesAll body ++ Node.referencesOpt empty
  | .filtered call body _ => Node.referencesAll body ++ call.references

/-- The references of nodes. -/
def Node.referencesAll : List Node → List Reference
  | [] => []
  | n :: rest => Node.references n ++ Node.referencesAll rest

/-- The references of a body that may be lacking. -/
def Node.referencesOpt : Option (List Node) → List Reference
  | none => []
  | some body => Node.referencesAll body

/-- The references of the branches of a choice. -/
def Branches.references : Branches → List Reference
  | .none => []
  | .otherwise body => Node.referencesAll body
  | .when test body rest =>
    test.test.references ++ Node.referencesAll body ++ Branches.references rest

end

/-- The references of a template, in the order in which a compilation meets them. -/
def Template.references (t : Template) : List Reference :=
  Node.referencesAll t

/-- The names of the filters that a template calls, call by call. -/
def Template.filterNames (t : Template) : List String :=
  t.references.filterMap Reference.filterName?

/-! The references to variables are the variables among the operands, in the same order. -/

theorem Operand.filterMap_path?_references (x : Operand) :
    x.references.filterMap Reference.path? = [x].filterMap (·.term.path?) := by
  rcases x with ⟨v | p, pos⟩ <;> rfl

theorem FilterCall.filterMap_path?_references (call : FilterCall) :
    call.references.filterMap Reference.path? = call.arg.toList.filterMap (·.term.path?) := by
  rcases call with ⟨name, _ | x, pos⟩
  · rfl
  · have hrefs : FilterCall.references ⟨name, some x, pos⟩ = .filter name :: x.references :=
      congrArg (Reference.filter name :: ·) (List.flatMap_singleton _ x)
    rw [hrefs, List.filterMap_cons_none rfl]
    exact x.filterMap_path?_references

theorem FilterExpr.filterMap_path?_references (e : FilterExpr) :
    e.references.filterMap Reference.path? = e.operands.filterMap (·.term.path?) := by
  obtain ⟨base, calls⟩ := e
  have hcalls : (calls.flatMap FilterCall.references).filterMap Reference.path? =
      (calls.filterMap FilterCall.arg).filterMap (·.term.path?) := by
    induction calls with
    | nil => rfl
    | cons call rest ih =>
      have harg : (call :: rest).filterMap FilterCall.arg =
          call.arg.toList ++ rest.filterMap FilterCall.arg := by
        rcases h : call.arg <;> simp [h]
      rw [List.flatMap_cons, List.filterMap_append, harg, List.filterMap_append, ih,
        call.filterMap_path?_references]
  -- The operand comes first, in the references as in the operands.
  have hsplit : FilterExpr.operands ⟨base, calls⟩ = [base] ++ calls.filterMap FilterCall.arg := rfl
  rw [hsplit, List.filterMap_append, FilterExpr.references, List.filterMap_append, hcalls,
    base.filterMap_path?_references]

mutual

theorem Node.filterMap_path?_references (n : Node) :
    n.references.filterMap Reference.path? = n.operands.filterMap (·.term.path?) := by
  match n with
  | .text content pos => rfl
  | .comment pos => rfl
  | .output expr pos =>
    rw [Node.references, Node.operands, expr.filterMap_path?_references]
  | .conditional branches pos =>
    rw [Node.references, Node.operands, Branches.filterMap_path?_references branches]
  | .loop binding iterable body empty pos =>
    simp only [Node.references, Node.operands, List.filterMap_append,
      iterable.filterMap_path?_references, Node.filterMap_path?_referencesAll body,
      Node.filterMap_path?_referencesOpt empty]
  | .filtered call body pos =>
    simp only [Node.references, Node.operands, List.filterMap_append,
      call.filterMap_path?_references, Node.filterMap_path?_referencesAll body]

theorem Node.filterMap_path?_referencesAll (ns : List Node) :
    (Node.referencesAll ns).filterMap Reference.path? =
      (Node.operandsAll ns).filterMap (·.term.path?) := by
  match ns with
  | [] => rfl
  | n :: rest =>
    simp only [Node.referencesAll, Node.operandsAll, List.filterMap_append,
      Node.filterMap_path?_references n, Node.filterMap_path?_referencesAll rest]

theorem Node.filterMap_path?_referencesOpt (ns : Option (List Node)) :
    (Node.referencesOpt ns).filterMap Reference.path? =
      (Node.operandsOpt ns).filterMap (·.term.path?) := by
  match ns with
  | none => rfl
  | some body =>
    rw [Node.referencesOpt, Node.operandsOpt, Node.filterMap_path?_referencesAll body]

theorem Branches.filterMap_path?_references (b : Branches) :
    b.references.filterMap Reference.path? = b.operands.filterMap (·.term.path?) := by
  match b with
  | .none => rfl
  | .otherwise body =>
    rw [Branches.references, Branches.operands, Node.filterMap_path?_referencesAll body]
  | .when test body rest =>
    simp only [Branches.references, Branches.operands, List.filterMap_append,
      test.test.filterMap_path?_references, Node.filterMap_path?_referencesAll body,
      Branches.filterMap_path?_references rest]

end

/-! ## Handles of a program -/

/-- A place in one of the tables of a program. -/
inductive Handle where
  | variable (h : VariableHandle)
  | filter (h : FilterHandle)
deriving DecidableEq, Repr

/-- The handle of a variable. -/
def Handle.variable? : Handle → Option VariableHandle
  | .variable h => some h
  | .filter _ => none

mutual

/-- The handles of an expression, those of a fallback included. -/
def Expr.handles : Expr → List Handle
  | .literal _ _ => []
  | .resolve h _ => [.variable h]
  | .tryResolve h fallback _ => .variable h :: Expr.handlesOpt fallback
  | .filter h input arg _ => Expr.handles input ++ .filter h :: Expr.handlesOpt arg
  | .not e _ => Expr.handles e

/-- The handles of an expression that may be lacking. -/
def Expr.handlesOpt : Option Expr → List Handle
  | none => []
  | some e => Expr.handles e

end

mutual

/-- The handles of a statement. -/
def Stmt.handles : Stmt → List Handle
  | .emit e _ => e.handles
  | .text _ _ => []
  | .conditional arms _ => Arms.handles arms
  | .loop _ iterable body empty _ =>
    iterable.handles ++ Stmt.handlesAll body ++ Stmt.handlesAll empty

/-- The handles of statements. -/
def Stmt.handlesAll : List Stmt → List Handle
  | [] => []
  | s :: rest => Stmt.handles s ++ Stmt.handlesAll rest

/-- The handles of the bodies of a choice and their tests. -/
def Arms.handles : Arms → List Handle
  | .otherwise body => Stmt.handlesAll body
  | .arm test body rest => test.handles ++ Stmt.handlesAll body ++ Arms.handles rest

end

/-- All handles of a program. -/
def Program.handles (p : Program) : List Handle :=
  Stmt.handlesAll p.body

@[simp] theorem Expr.handles_withPos (pos : Option Position) (e : Expr) :
    (e.withPos pos).handles = e.handles := by
  cases e <;> simp [Expr.withPos, Expr.handles]

@[simp] theorem Expr.lookups_withPos (pos : Option Position) (e : Expr) :
    (e.withPos pos).lookups = e.lookups := by
  cases e <;> simp [Expr.withPos, Expr.lookups]

theorem Stmt.handlesAll_append (xs ys : List Stmt) :
    Stmt.handlesAll (xs ++ ys) = Stmt.handlesAll xs ++ Stmt.handlesAll ys := by
  induction xs with
  | nil => rfl
  | cons x xs ih => simp [Stmt.handlesAll, ih]

theorem Stmt.lookupsAll_append (xs ys : List Stmt) :
    Stmt.lookupsAll (xs ++ ys) = Stmt.lookupsAll xs ++ Stmt.lookupsAll ys := by
  induction xs with
  | nil => rfl
  | cons x xs ih => simp [Stmt.lookupsAll, ih]

/-- Instructions with these handles and lookups carry `hs`: the handles are `hs`, and the lookups
are the variables among them. -/
structure Handle.Carries (handles : List Handle) (lookups : List VariableHandle)
    (hs : List Handle) : Prop where
  handles : handles = hs
  lookups : lookups = hs.filterMap Handle.variable?

theorem Handle.Carries.append {as bs hs ks : List Handle} {ls ms : List VariableHandle}
    (h : Handle.Carries as ls hs) (k : Handle.Carries bs ms ks) :
    Handle.Carries (as ++ bs) (ls ++ ms) (hs ++ ks) := by
  obtain ⟨rfl, rfl⟩ := h
  obtain ⟨rfl, rfl⟩ := k
  exact ⟨rfl, List.filterMap_append.symm⟩

/-! ## Entering references -/

/-- Entering the references one after the other into the first tables gives the handles and leaves
the second tables. A filter is the one that the registry has under the name. -/
inductive Tables.Links (r : Registry) : Tables → List Reference → List Handle → Tables → Prop
  | nil (t : Tables) : Links r t [] [] t
  | path {t u : Tables} {refs : List Reference} {hs : List Handle} (p : Path)
      (rest : Links r (t.internPath p).2 refs hs u) :
      Links r t (.variable p :: refs) (.variable (t.internPath p).1 :: hs) u
  | filter {t u : Tables} {refs : List Reference} {hs : List Handle} {name : String} {f : Filter}
      (found : r.get? name = some f) (rest : Links r (t.internFilter f).2 refs hs u) :
      Links r t (.filter name :: refs) (.filter (t.internFilter f).1 :: hs) u

theorem Tables.Links.append {r : Registry} {t u v : Tables} {xs ys : List Reference}
    {hs ks : List Handle} (h : Links r t xs hs u) (k : Links r u ys ks v) :
    Links r t (xs ++ ys) (hs ++ ks) v := by
  induction h with
  | nil t => exact k
  | path p rest ih => exact .path p (ih k)
  | filter found rest ih => exact .filter found (ih k)

/-- Where this part of a compilation succeeds, it has entered the references, and what it gives is
related to their handles by `P`. -/
def CompileM.Enters {α : Type} (r : Registry) (x : CompileM α) (refs : List Reference)
    (P : List Handle → α → Prop) : Prop :=
  ∀ t a t', x t = .ok (a, t') → ∃ hs, Tables.Links r t refs hs t' ∧ P hs a

namespace CompileM.Enters

variable {α β : Type} {r : Registry} {refs refs' : List Reference} {P : List Handle → α → Prop}
  {Q : List Handle → β → Prop}

theorem pure {a : α} (h : P [] a) : Enters r (Pure.pure a) [] P := by
  intro t b t' hb
  obtain ⟨rfl, rfl⟩ := Prod.mk.inj (Except.ok.inj hb)
  exact ⟨[], .nil t, h⟩

/-- Parts one after the other enter their references one after the other. -/
theorem bind {x : CompileM α} {f : α → CompileM β} (hx : Enters r x refs P)
    (hf : ∀ hs a, P hs a → Enters r (f a) refs' fun ks b => Q (hs ++ ks) b) :
    Enters r (x >>= f) (refs ++ refs') Q := by
  intro t b t' h
  simp only [Bind.bind] at h
  split at h
  · next a u hu =>
    obtain ⟨hs, hlinks, hP⟩ := hx t a u hu
    obtain ⟨ks, hlinks', hQ⟩ := hf hs a hP u b t' h
    exact ⟨hs ++ ks, hlinks.append hlinks', hQ⟩
  · cases h

/-- What is made in the end of what was given enters nothing more. -/
theorem map {x : CompileM α} {f : α → β} (hx : Enters r x refs P)
    (hf : ∀ hs a, P hs a → Q hs (f a)) : Enters r (do let a ← x; return f a) refs Q := by
  have h : Enters r (do let a ← x; return f a) (refs ++ []) Q :=
    hx.bind fun hs a ha => .pure ((List.append_nil hs).symm ▸ hf hs a ha)
  rwa [List.append_nil] at h

/-- A check that leaves the tables as they are enters nothing. -/
theorem bind_ofExcept {result : Except CompileError α} {f : α → CompileM β}
    (hf : ∀ a, result = .ok a → Enters r (f a) refs Q) :
    Enters r (CompileM.ofExcept result >>= f) refs Q := by
  intro t b t' h
  cases result with
  | error e => cases h
  | ok a => exact hf a rfl t b t' h

theorem error (e : CompileError) : Enters r (CompileM.ofExcept (.error e)) refs P := by
  intro t a t' h
  cases h

theorem resolve (p : Path) (mode : Resolution) :
    Enters r (CompileM.enter (·.resolve p mode)) [.variable p] fun hs e =>
      ∃ h, hs = [.variable h] ∧ e = mode.lookup h := by
  intro t e t' h
  rw [CompileM.enter, Tables.resolve_eq] at h
  obtain ⟨rfl, rfl⟩ := Prod.mk.inj (Except.ok.inj h)
  exact ⟨_, .path p (.nil _), _, rfl, rfl⟩

theorem internFilter {name : String} {f : Filter} (hf : r.get? name = some f) :
    Enters r (CompileM.enter (·.internFilter f)) [.filter name] fun hs h => hs = [.filter h] := by
  intro t h t' heq
  obtain ⟨rfl, rfl⟩ := Prod.mk.inj (Except.ok.inj heq)
  exact ⟨_, .filter hf (.nil _), rfl⟩

end CompileM.Enters

open CompileM (Enters)

/-! ## What a compilation enters -/

/-- A lookup carries the handle of its variable and nothing else, if its fallback has no handles. -/
theorem Resolution.carries_lookup {mode : Resolution} (hmode : Expr.handlesOpt mode.fallback = [])
    (h : VariableHandle) (pos : Option Position) :
    Handle.Carries ((mode.lookup h).withPos pos).handles ((mode.lookup h).withPos pos).lookups
      [.variable h] := by
  rw [Expr.handles_withPos, Expr.lookups_withPos]
  rcases mode with _ | _ | fallback
  · exact ⟨rfl, rfl⟩
  · exact ⟨rfl, rfl⟩
  · -- A fallback that surely counts as false is dropped, and any other one is kept as it is.
    rw [Resolution.lookup, Option.filter_some]
    split
    · exact ⟨congrArg (Handle.variable h :: ·) hmode, rfl⟩
    · exact ⟨rfl, rfl⟩

theorem Operand.enters_compile (r : Registry) (mode : Resolution)
    (hmode : Expr.handlesOpt mode.fallback = []) (x : Operand) :
    Enters r (x.compile mode) x.references fun hs e => Handle.Carries e.handles e.lookups hs := by
  rcases x with ⟨v | p, pos⟩
  · exact .pure ⟨rfl, rfl⟩
  · refine (CompileM.Enters.resolve p mode).map ?_
    rintro hs e ⟨h, rfl, rfl⟩
    exact Resolution.carries_lookup hmode h pos

section Compile

variable (r : Registry)

theorem FilterCall.enters_compileArg (call : FilterCall) :
    Enters r call.compileArg (call.arg.toList.flatMap Operand.references) fun hs arg =>
      Handle.Carries (Expr.handlesOpt arg) (Expr.lookupsOpt arg) hs := by
  rw [FilterCall.compileArg]
  cases call.arg with
  | none => exact .pure ⟨rfl, rfl⟩
  | some x =>
    rw [Option.toList_some, List.flatMap_singleton]
    exact (x.enters_compile r .strict rfl).map fun _ _ he => he

/-- A compiled call carries the handles of its input, then that of its filter, then those of its
argument. -/
theorem FilterCall.enters_compile (call : FilterCall) (input : Expr) {is : List Handle}
    (hinput : Handle.Carries input.handles input.lookups is) :
    Enters r (call.compile r input) call.references fun hs e =>
      Handle.Carries e.handles e.lookups (is ++ hs) := by
  refine .bind_ofExcept fun f hf => ?_
  -- The filter is entered before the variable of the argument.
  refine (CompileM.Enters.internFilter (FilterCall.check_eq_ok_iff.mp hf).1).bind ?_
  rintro _ handle rfl
  refine (call.enters_compileArg r).map fun hs arg harg => ?_
  have hfilter : Handle.Carries [Handle.filter handle] [] [Handle.filter handle] := ⟨rfl, rfl⟩
  rw [Expr.handles, Expr.lookups]
  exact hinput.append (hfilter.append harg)

theorem FilterCall.enters_compileAll (calls : List FilterCall) (input : Expr) {is : List Handle}
    (hinput : Handle.Carries input.handles input.lookups is) :
    Enters r (FilterCall.compileAll r calls input) (calls.flatMap FilterCall.references)
      fun hs e => Handle.Carries e.handles e.lookups (is ++ hs) := by
  induction calls generalizing input is with
  | nil => exact .pure ((List.append_nil is).symm ▸ hinput)
  | cons call rest ih =>
    rw [List.flatMap_cons]
    refine (call.enters_compile r input hinput).bind fun hs e he => ?_
    simpa only [List.append_assoc] using ih e he

theorem FilterExpr.enters_compile (mode : Resolution)
    (hmode : Expr.handlesOpt mode.fallback = []) (e : FilterExpr) :
    Enters r (e.compile r mode) e.references fun hs e' =>
      Handle.Carries e'.handles e'.lookups hs :=
  (e.base.enters_compile r mode hmode).bind fun _ base hbase =>
    FilterCall.enters_compileAll r e.filters base hbase

theorem Condition.enters_compile (test : Condition) :
    Enters r (test.compile r) test.test.references fun hs e =>
      Handle.Carries e.handles e.lookups hs := by
  refine (test.test.enters_compile r (.lenient none) rfl).map fun hs e he => ?_
  split
  · rwa [Expr.handles, Expr.lookups]
  · exact he

variable (c : CompileOptions)

/-- The fallback of an output is a literal, which has no handles. -/
theorem CompileOptions.handlesOpt_fallback_outputMode (e : FilterExpr) :
    Expr.handlesOpt (c.outputMode e).fallback = [] := by
  have hcall (call : FilterCall) : Expr.handlesOpt call.fallback? = [] := by
    rw [FilterCall.fallback?]
    split
    · split <;> rfl
    · rfl
  rw [CompileOptions.outputMode, Resolution.fallback]
  split
  · rw [FilterExpr.fallback?]
    rcases e.filters with _ | ⟨call, rest⟩
    · rfl
    · exact hcall call
  · rfl

mutual

theorem Node.enters_compile (n : Node) :
    Enters r (n.compile r c) n.references fun hs stmt =>
      Handle.Carries (Stmt.handlesAll stmt.toList) (Stmt.lookupsAll stmt.toList) hs := by
  match n with
  | .text content pos => exact .pure ⟨rfl, rfl⟩
  | .comment pos => exact .pure ⟨rfl, rfl⟩
  | .output expr pos =>
    have hmode := c.handlesOpt_fallback_outputMode expr
    refine (expr.enters_compile r (c.outputMode expr) hmode).map fun hs e he => ?_
    simpa [Stmt.handlesAll, Stmt.handles, Stmt.lookupsAll, Stmt.lookups, Stmt.ofExpr] using he
  | .conditional branches pos =>
    refine (Branches.enters_compile branches).map fun hs arms harms => ?_
    simpa [Stmt.handlesAll, Stmt.handles, Stmt.lookupsAll, Stmt.lookups] using harms
  | .loop binding iterable body empty pos =>
    rw [Node.references, List.append_assoc]
    refine (iterable.enters_compile r (.lenient none) rfl).bind fun hs e he => ?_
    refine (Node.enters_compileAll body).bind fun ks inner hinner => ?_
    refine (Node.enters_compileOpt empty).map fun ls lacking hlacking => ?_
    simpa [Stmt.handlesAll, Stmt.handles, Stmt.lookupsAll, Stmt.lookups] using
      he.append (hinner.append hlacking)
  -- A block is not compiled, so there is nothing to carry.
  | .filtered call body pos => exact .error _

/-- **The statements of nodes carry the handles of the references of the nodes.** -/
theorem Node.enters_compileAll (ns : List Node) :
    Enters r (Node.compileAll r c ns) (Node.referencesAll ns) fun hs stmts =>
      Handle.Carries (Stmt.handlesAll stmts) (Stmt.lookupsAll stmts) hs := by
  match ns with
  | [] => exact .pure ⟨rfl, rfl⟩
  | n :: rest =>
    refine (Node.enters_compile n).bind fun hs stmt hstmt => ?_
    refine (Node.enters_compileAll rest).map fun ks stmts hstmts => ?_
    rw [Stmt.handlesAll_append, Stmt.lookupsAll_append]
    exact hstmt.append hstmts

theorem Node.enters_compileOpt (ns : Option (List Node)) :
    Enters r (Node.compileOpt r c ns) (Node.referencesOpt ns) fun hs stmts =>
      Handle.Carries (Stmt.handlesAll stmts) (Stmt.lookupsAll stmts) hs := by
  match ns with
  | none => exact .pure ⟨rfl, rfl⟩
  | some body => exact Node.enters_compileAll body

theorem Branches.enters_compile (b : Branches) :
    Enters r (b.compile r c) b.references fun hs arms =>
      Handle.Carries arms.handles arms.lookups hs := by
  match b with
  | .none => exact .pure ⟨rfl, rfl⟩
  | .otherwise body => exact (Node.enters_compileAll body).map fun hs inner hinner => hinner
  | .when test body rest =>
    rw [Branches.references, List.append_assoc]
    refine (test.enters_compile r).bind fun hs e he => ?_
    refine (Node.enters_compileAll body).bind fun ks inner hinner => ?_
    refine (Branches.enters_compile rest).map fun ls arms harms => ?_
    simpa [Arms.handles, Arms.lookups] using he.append (hinner.append harms)

end

end Compile

section Compiled

variable {t : Template} {r : Registry} {c : CompileOptions} {name : Option String} {p : Program}

/-- **A compilation enters the references of its template in order**: the handles of the program are
those that were given out for them, and its tables are the ones that were left. -/
theorem Template.links_compile (hcompile : t.compile r c name = .ok p) :
    Tables.Links r {} t.references p.handles p.tables ∧
      p.lookups = p.handles.filterMap Handle.variable? := by
  obtain ⟨-, hbody⟩ := Template.compile_eq_ok_iff.mp hcompile
  obtain ⟨hs, hlinks, rfl, hlookups⟩ := Node.enters_compileAll r c t {} p.body p.tables hbody
  exact ⟨hlinks, hlookups⟩

end Compiled

end Stencil
