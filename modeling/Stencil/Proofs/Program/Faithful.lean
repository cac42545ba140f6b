import Stencil.Proofs.Program.Tables
import Stencil.Proofs.Render.Outputs
import Stencil.Proofs.Render.Simulation
import Stencil.Filter.Standard
import Stencil.Program.Execute
import Stencil.Template.Operands

/-!
# Programs do what their templates do

A program is executed with the same outcome as its template is rendered: the same result or error at
the same position, the same output, the same counts and the same variables, also where the rendering
fails half-way. Expressions even have equal effects, but for one liberty of the compiler: the
literal of a first filter `default` may serve as the fallback of the variable before it. The filter
is then called with that literal in place of an absent value. This goes unnoticed if it has the same
result, and if it calls for a stop on behalf of both or of neither.

## Main definitions

* `Template.paths`: the variables of a template
* `Template.KeysDistinct`: no two variables of a template share a key
* `Registry.KeepsFallback`, `Registry.KeepsStops`: the filter `default` has the same result for a
  literal that may serve as a fallback as for an absent value, and calls for a stop alike
* `Registry.KeepsFallbackAt v`, `Registry.Absorbs heed v`: it answers the same for `v`, or as far as
  that is heeded
* `CompileOptions.evalOutput`: the value that a program writes out for an expression

## Main results

* `FilterExpr.yields_compile`: a compiled expression and its expression have equal effects
* `Node.yields_renderAllWith`: the statements of nodes simulate the nodes, whatever the
  outputs are evaluated by, if they do so in the outputs
* `Template.simulates_execute`: a program simulates its template, if it does so in the outputs
* `execute_eq_render`: a program is executed as its template is rendered
* `stop_seen_of_fallback`: it need not if `default` calls for a stop on behalf of a fallback
-/

namespace Stencil

/-- The variables of a template, in the order of its operands. -/
def Template.paths (t : Template) : List Path :=
  t.operands.filterMap (·.term.path?)

/-- No two variables of the template share a key. -/
def Template.KeysDistinct (t : Template) : Prop :=
  ∀ p ∈ t.paths, ∀ q ∈ t.paths, p.key = q.key → p = q

instance (t : Template) : Decidable t.KeysDistinct :=
  inferInstanceAs (Decidable (∀ p ∈ t.paths, ∀ q ∈ t.paths, p.key = q.key → p = q))

/-- The variable of the operand, if it is one, is among `S`. -/
def Operand.Among (S : Path → Prop) (o : Operand) : Prop :=
  ∀ p, o.term = .variable p → S p

/-- The filter `default`, if there is one, has the same result for a literal that counts as true as
for an absent value, when that literal is its argument. -/
def Registry.KeepsFallback (r : Registry) : Prop :=
  ∀ f, r.get? "default" = some f → ∀ v : Value, v.isTruthy = true →
    (f.apply v (some v)).result = (f.apply .nothing (some v)).result

/-- The filter `default`, if there is one, calls for a stop on behalf of a literal that counts as
true just when it does so on behalf of an absent value, when that literal is its argument. -/
def Registry.KeepsStops (r : Registry) : Prop :=
  ∀ f, r.get? "default" = some f → ∀ v : Value, v.isTruthy = true →
    (f.apply v (some v)).cancels = (f.apply .nothing (some v)).cancels

/-- The filter `default`, if there is one, answers the same for `v` as for an absent value, when `v`
is its argument. -/
def Registry.KeepsFallbackAt (r : Registry) (v : Value) : Prop :=
  ∀ f, r.get? "default" = some f → f.apply v (some v) = f.apply .nothing (some v)

/-- The filter `default`, if there is one, has matching replies for `v` and for an absent value,
when `v` is its argument. -/
def Registry.Absorbs (heed : Prop) (r : Registry) (v : Value) : Prop :=
  ∀ f, r.get? "default" = some f →
    (f.apply v (some v)).Matches heed (f.apply .nothing (some v))

/-- The value that a program writes out for an expression: if the options ask for it, a stand-in
serves for a missing variable. -/
def CompileOptions.evalOutput (c : CompileOptions) (r : Registry) (e : FilterExpr) :
    RenderM Value :=
  if c.defaultAsFallback then e.evalStandIn r else e.eval r

/-! ## Expressions -/

section Expressions

variable {S : Path → Prop} {r : Registry} (hS : ∀ p q, S p → S q → p.key = q.key → p = q)
include hS

/-- A strict operand is compiled to an expression with the same effect. -/
theorem Operand.yields_compile_strict {o : Operand} (ho : o.Among S) :
    CompileM.Yields (Tables.Sound S r) (o.compile .strict) fun T e => e.eval T = o.evalStrict := by
  rcases o with ⟨v | p, pos⟩
  · exact .pure fun T => by simp only [Expr.eval, Operand.evalStrict]
  · refine .bind (CompileM.yields_resolve hS (ho p rfl) .strict) fun e => .pure fun T => ?_
    rintro ⟨h, hget, rfl⟩
    simp only [Resolution.lookup, Expr.withPos, Expr.eval, Tables.evalVariable, hget,
      Operand.evalStrict]

/-- A lenient operand is compiled to an expression with the same effect, where a literal fallback
serves only if it counts as true. -/
theorem Operand.yields_compile_lenient {o : Operand} (ho : o.Among S) (fallback : Option Value)
    (pos : Position) :
    CompileM.Yields (Tables.Sound S r)
      (o.compile (.lenient (fallback.map (Expr.literal · pos)))) fun T e =>
        e.eval T = o.evalOr (fallback.filter Value.isTruthy) ∧ e.pos = o.pos.getD .unknown := by
  rcases o with ⟨v | p, opos⟩
  · exact .pure fun T => ⟨by simp only [Expr.eval, Operand.evalOr], rfl⟩
  · refine .bind (CompileM.yields_resolve hS (ho p rfl) _) fun e => .pure fun T => ?_
    rintro ⟨h, hget, rfl⟩
    -- Only a literal that counts as true is kept as a fallback, and it evaluates to itself.
    have hfallback : Expr.evalOpt T ((fallback.map (Expr.literal · pos)).filter Expr.mayBeTruthy) =
        (pure (fallback.filter Value.isTruthy) : RenderM (Option Value)) := by
      cases fallback with
      | none => rfl
      | some v =>
        have hkeep : (Expr.literal v pos).mayBeTruthy = v.isTruthy := rfl
        cases hv : v.isTruthy with
        | false => simp [Option.filter_some, hkeep, hv, Expr.evalOpt]
        | true => simp [Option.filter_some, hkeep, hv, Expr.evalOpt, Expr.eval]
    refine ⟨?_, Expr.pos_withPos opos _⟩
    simp only [Resolution.lookup, Expr.withPos, Expr.eval, hfallback, pure_bind,
      Tables.evalVariableOr, hget, Operand.evalOr]

theorem FilterCall.yields_compileArg {call : FilterCall} (hcall : ∀ o ∈ call.arg, o.Among S) :
    CompileM.Yields (Tables.Sound S r) call.compileArg fun T e =>
      Expr.evalOpt T e = call.evalArg := by
  obtain ⟨name, arg, pos⟩ := call
  cases arg with
  | none => exact .pure fun T => by simp only [Expr.evalOpt, FilterCall.evalArg]
  | some o =>
    refine .bind (Operand.yields_compile_strict hS (hcall o rfl)) fun e => .pure fun T he => ?_
    simp only [Expr.evalOpt, FilterCall.evalArg, he]

omit hS in
/-- A call whose name and argument were checked has the filter of that name at work. -/
theorem FilterCall.apply_eq_of_check {call : FilterCall} {f : Filter} (h : call.check r = .ok f)
    (v : Value) :
    call.apply r v =
      call.evalArg >>= fun arg => RenderM.located (call.pos.getD .unknown) (f.call v arg) := by
  obtain ⟨hget, hfits⟩ := FilterCall.check_eq_ok_iff.mp h
  -- The argument that is evaluated is there if, and only if, the call has one.
  have hcall (arg : Option Value) (harg : arg.isSome = call.arg.isSome) :
      r.call call.name v arg = f.call v arg := by
    simp only [Registry.call, Registry.select, hget, harg, hfits]
  simp only [FilterCall.apply, FilterCall.evalArg]
  cases harg : call.arg with
  | none => rw [pure_bind, pure_bind, hcall none (by simp [harg])]
  | some o =>
    rw [bind_assoc, bind_assoc]
    refine congrArg _ (funext fun w => ?_)
    rw [pure_bind, pure_bind, hcall (some w) (by simp [harg])]

/-- A compiled call has the effect of its input, and then that of the call. -/
theorem FilterCall.yields_compile {call : FilterCall} (hcall : ∀ o ∈ call.arg, o.Among S)
    (input : Expr) :
    CompileM.Yields (Tables.Sound S r) (call.compile r input) fun T e =>
      e.eval T = input.eval T >>= call.apply r ∧ e.pos = call.pos.getD .unknown := by
  refine .bind_ofExcept fun f hf => ?_
  have hget := (FilterCall.check_eq_ok_iff.mp hf).1
  rw [← Registry.name_of_get? hget] at hget
  refine .bind (CompileM.yields_internFilter hget) fun handle => ?_
  refine .bind (FilterCall.yields_compileArg hS hcall) fun arg => .pure fun T harg hfilter => ?_
  refine ⟨?_, rfl⟩
  simp only [Expr.eval, harg, Tables.callFilter, hfilter]
  exact congrArg _ (funext fun v => (FilterCall.apply_eq_of_check hf v).symm)

/-- Compiled calls have the effect of their input, and then that of the calls in order. -/
theorem FilterCall.yields_compileAll {calls : List FilterCall}
    (hcalls : ∀ o ∈ calls.filterMap FilterCall.arg, o.Among S) (input : Expr) :
    CompileM.Yields (Tables.Sound S r) (FilterCall.compileAll r calls input) fun T e =>
      e.eval T = input.eval T >>= FilterCall.applyAll r calls ∧
        e.pos = (calls.getLast?.map (·.pos.getD .unknown)).getD input.pos := by
  induction calls generalizing input with
  | nil => exact .pure fun T => ⟨(bind_pure _).symm, rfl⟩
  | cons call rest ih =>
    have hcall : ∀ o ∈ call.arg, o.Among S := fun o ho =>
      hcalls o (List.mem_filterMap.mpr ⟨call, List.mem_cons_self, ho⟩)
    have hrest : ∀ o ∈ rest.filterMap FilterCall.arg, o.Among S := by
      intro o ho
      obtain ⟨c, hc, hco⟩ := List.mem_filterMap.mp ho
      exact hcalls o (List.mem_filterMap.mpr ⟨c, List.mem_cons_of_mem _ hc, hco⟩)
    refine .bind (FilterCall.yields_compile hS hcall input) fun e => (ih hrest e).imp ?_
    rintro T e' ⟨heval', hpos'⟩ ⟨heval, hpos⟩
    constructor
    · rw [heval', heval, bind_assoc]
      rfl
    · rw [hpos', hpos, List.getLast?_cons]
      cases rest.getLast? <;> rfl

/-- **A compiled expression has the effect of the expression**, where a literal fallback that counts
as true serves for a missing variable. -/
theorem FilterExpr.yields_compile {e : FilterExpr} (he : ∀ o ∈ e.operands, o.Among S)
    (fallback : Option Value) (pos : Position) :
    CompileM.Yields (Tables.Sound S r)
      (e.compile r (.lenient (fallback.map (Expr.literal · pos)))) fun T e' =>
        e'.eval T =
            e.base.evalOr (fallback.filter Value.isTruthy) >>= FilterCall.applyAll r e.filters ∧
          e'.pos = e.outerPos.getD .unknown := by
  have hbase : e.base.Among S := he e.base List.mem_cons_self
  have hfilters : ∀ o ∈ e.filters.filterMap FilterCall.arg, o.Among S := fun o ho =>
    he o (List.mem_cons_of_mem _ ho)
  refine .bind (Operand.yields_compile_lenient hS hbase fallback pos) fun base => ?_
  refine (FilterCall.yields_compileAll hS hfilters base).imp ?_
  rintro T e' ⟨heval', hpos'⟩ ⟨heval, hpos⟩
  constructor
  · rw [heval', heval]
  · rw [hpos', hpos, FilterExpr.outerPos]
    cases e.filters.getLast? <;> rfl

/-- Without a fallback, a compiled expression has the effect of the expression. -/
theorem FilterExpr.yields_compile_plain {e : FilterExpr} (he : ∀ o ∈ e.operands, o.Among S) :
    CompileM.Yields (Tables.Sound S r) (e.compile r (.lenient none)) fun T e' =>
      e'.eval T = e.eval r ∧ e'.pos = e.outerPos.getD .unknown :=
  FilterExpr.yields_compile hS he none .unknown

/-- A compiled condition is truthy where the condition holds. -/
theorem Condition.yields_compile {c : Condition} (hc : ∀ o ∈ c.test.operands, o.Among S) :
    CompileM.Yields (Tables.Sound S r) (c.compile r) fun T e =>
      Value.isTruthy <$> e.eval T = c.eval r := by
  refine .bind (FilterExpr.yields_compile_plain hS hc) fun test => .pure ?_
  rintro T ⟨heval, -⟩
  simp only [Condition.eval, ← heval]
  cases c.negated with
  | false => simp [← bind_pure_comp]
  | true => simp [Expr.eval, ← bind_pure_comp, Value.isTruthy]

end Expressions

/-! ## The calls of a rendering

Where `C` relates every call to itself, evaluation simulates itself; and a fallback before the
filter `default` is not noticed if `C` does not tell the two calls apart. -/

section Calls

open RenderM (Simulates)

variable {heed : Prop} {C : Call → Call → Prop} (hC : ∀ c, C c c) (r : Registry)

include hC

/-- A fallback before a call of `default` with that literal as its argument is not noticed. -/
theorem FilterCall.simulates_apply_fallback {v : Value} (hr : r.Absorbs heed v)
    (hdefault : C ⟨"default", v, some v⟩ ⟨"default", .nothing, some v⟩)
    {call : FilterCall} {pos : Option Position} (hname : call.name = "default")
    (harg : call.arg = some ⟨.literal v, pos⟩) (base : Operand) :
    Simulates (Run.Matches heed C) (base.evalOr (some v) >>= call.apply r)
      (base.evalOr none >>= call.apply r) := by
  rcases base with ⟨w | p, basePos⟩
  · exact .bind (.pure w) (call.related_apply (Simulates.congruence_expr hC) r)
  · have hcall : Simulates (Run.Matches heed C) (call.apply r v) (call.apply r .nothing) := by
      have heval : call.evalArg = pure (some v) := by
        rw [FilterCall.evalArg, harg]
        rfl
      rw [FilterCall.apply, FilterCall.apply, heval, pure_bind, pure_bind, hname]
      refine .located _ ?_
      rw [Registry.call, Registry.call]
      cases hf : r.select "default" (some v).isSome with
      | error e => exact .ofExcept _
      | ok f =>
        have hget := Registry.get?_of_select hf
        refine .call (hr f hget) ?_
        rw [Registry.name_of_get? hget]
        exact hdefault
    intro s t h
    -- The variable is the same in both runs; only where it is missing does the fallback serve.
    cases hfind : s.context.find? p with
    | some w =>
      have hs : Operand.evalOr (some v) ⟨.variable p, basePos⟩ s = (.ok w, s) := by
        simp only [Operand.evalOr, RenderM.resolveOr, hfind, Option.getD_some]
      have ht : Operand.evalOr none ⟨.variable p, basePos⟩ t = (.ok w, t) := by
        simp only [Operand.evalOr, RenderM.resolveOr, ← h.context, hfind, Option.getD_some]
      rw [RenderM.bind_apply_ok _ _ _ hs, RenderM.bind_apply_ok _ _ _ ht]
      exact call.related_apply (Simulates.congruence_expr hC) r w s t h
    | none =>
      have hs : Operand.evalOr (some v) ⟨.variable p, basePos⟩ s = (.ok v, s) := by
        simp only [Operand.evalOr, RenderM.resolveOr, hfind, Option.getD_some, Option.getD_none]
      have ht : Operand.evalOr none ⟨.variable p, basePos⟩ t = (.ok .nothing, t) := by
        simp only [Operand.evalOr, RenderM.resolveOr, ← h.context, hfind, Option.getD_none]
      rw [RenderM.bind_apply_ok _ _ _ hs, RenderM.bind_apply_ok _ _ _ ht]
      exact hcall s t h

/-- A stand-in is not noticed: the first call absorbs it, and the calls behind it see the same
value. -/
theorem FilterExpr.simulates_evalStandIn {e : FilterExpr}
    (hstandIn : ∀ v, e.standIn? = some v → r.Absorbs heed v ∧
      C ⟨"default", v, some v⟩ ⟨"default", .nothing, some v⟩) :
    Simulates (Run.Matches heed C) (e.evalStandIn r) (e.eval r) := by
  cases he : e.standIn? with
  | none =>
    rw [FilterExpr.evalStandIn_of_eq_none he r]
    exact e.related_eval (Simulates.congruence_expr hC) r
  | some v =>
    obtain ⟨hr, hdefault⟩ := hstandIn v he
    obtain ⟨-, -, call, rest, pos, hfilters, hname, harg⟩ := FilterExpr.standIn?_eq_some he
    have hrest : FilterCall.applyAll r e.filters =
        fun w => call.apply r w >>= FilterCall.applyAll r rest := by
      rw [hfilters]
      rfl
    rw [FilterExpr.evalStandIn, he, FilterExpr.eval, ← Operand.evalOr_none, hrest, ← bind_assoc,
      ← bind_assoc]
    exact .bind (FilterCall.simulates_apply_fallback hC r hr hdefault hname harg e.base)
      (FilterCall.related_applyAll (Simulates.congruence_expr hC) r rest)

/-- What a program writes out simulates the expression, if stand-ins do or there are none. -/
theorem CompileOptions.simulates_evalOutput {o : CompileOptions} {e : FilterExpr}
    (hstandIn : o.defaultAsFallback = true → ∀ v, e.standIn? = some v → r.Absorbs heed v ∧
      C ⟨"default", v, some v⟩ ⟨"default", .nothing, some v⟩) :
    Simulates (Run.Matches heed C) (o.evalOutput r e) (e.eval r) := by
  rw [CompileOptions.evalOutput]
  split
  · next hon => exact FilterExpr.simulates_evalStandIn hC r (hstandIn hon)
  · exact e.related_eval (Simulates.congruence_expr hC) r

end Calls

/-! ## Statements -/

theorem Stmt.execAll_append (T : Tables) (o : Options) (ss ts : List Stmt) :
    Stmt.execAll T o (ss ++ ts) = Stmt.execAll T o ss >>= fun _ => Stmt.execAll T o ts := by
  induction ss with
  | nil => simp [Stmt.execAll]
  | cons s ss ih => simp [Stmt.execAll, ih]

theorem Stmt.execAll_singleton (T : Tables) (o : Options) (s : Stmt) :
    Stmt.execAll T o [s] = Stmt.exec T o s := by
  simp only [Stmt.execAll]
  exact bind_pure _

section Statements

open RenderM (Simulates)

variable {heed : Prop} {C : Call → Call → Prop} {S : Path → Prop} {r : Registry}
  {o : CompileOptions}

/-- The fallback that a call gives is a literal, which is its stand-in if it counts as true. -/
theorem FilterCall.fallback?_eq (call : FilterCall) :
    ∃ (fallback : Option Value) (pos : Position),
      call.fallback? = fallback.map (Expr.literal · pos) ∧
        call.standIn? = fallback.filter Value.isTruthy := by
  rw [FilterCall.fallback?, FilterCall.standIn?]
  split
  · rcases call.arg with _ | ⟨v | p, pos⟩
    · exact ⟨none, .unknown, rfl, rfl⟩
    · exact ⟨some v, pos.getD .unknown, rfl, by rw [Option.filter_some]⟩
    · exact ⟨none, .unknown, rfl, rfl⟩
  · exact ⟨none, .unknown, rfl, rfl⟩

/-- The fallback of an expression is a literal, which serves like the stand-in if it counts as
true. -/
theorem FilterExpr.fallback?_eq (e : FilterExpr) :
    ∃ (fallback : Option Value) (pos : Position), e.fallback? = fallback.map (Expr.literal · pos) ∧
      e.base.evalOr (fallback.filter Value.isTruthy) = e.base.evalOr e.standIn? := by
  rcases e with ⟨⟨w | p, basePos⟩, _ | ⟨call, rest⟩⟩
  · exact ⟨none, .unknown, rfl, rfl⟩
  · -- A literal that is written out may be given a fallback, but has no use for it.
    obtain ⟨fallback, pos, hfallback, -⟩ := call.fallback?_eq
    exact ⟨fallback, pos, hfallback, rfl⟩
  · exact ⟨none, .unknown, rfl, rfl⟩
  · obtain ⟨fallback, pos, hfallback, hstandIn⟩ := call.fallback?_eq
    exact ⟨fallback, pos, hfallback, by rw [← hstandIn]; rfl⟩

/-- A compiled expression that is written out has the effect that the options ask for. -/
theorem FilterExpr.yields_compile_output (hS : ∀ p q, S p → S q → p.key = q.key → p = q)
    {e : FilterExpr} (he : ∀ o ∈ e.operands, o.Among S) :
    CompileM.Yields (Tables.Sound S r) (e.compile r (o.outputMode e)) fun T e' =>
      e'.eval T = o.evalOutput r e ∧ e'.pos = e.outerPos.getD .unknown := by
  rw [CompileOptions.outputMode, CompileOptions.evalOutput]
  split
  · obtain ⟨fallback, pos, hfallback, hstandIn⟩ := e.fallback?_eq
    rw [hfallback, FilterExpr.evalStandIn, ← hstandIn]
    exact FilterExpr.yields_compile hS he fallback pos
  · exact FilterExpr.yields_compile_plain hS he

variable {ev : FilterExpr → RenderM Value} {opts : Options}

mutual

/-- The statement of a node simulates the node; of a comment nothing remains. -/
theorem Node.yields_renderWith (hS : ∀ p q, S p → S q → p.key = q.key → p = q)
    (hR : RenderM.Congruence opts opts (Simulates (Run.Matches heed C))) (n : Node)
    (hn : ∀ x ∈ n.operands, x.Among S)
    (hev : ∀ e ∈ n.outputs, Simulates (Run.Matches heed C) (o.evalOutput r e) (ev e)) :
    CompileM.Yields (Tables.Sound S r) (n.compile r o) fun T stmt =>
      Simulates (Run.Matches heed C) (Stmt.execAll T opts stmt.toList)
        (n.renderWith ev r opts) := by
  match n with
  | .comment pos =>
    refine .pure fun T => ?_
    rw [Node.renderWith]
    exact .pure ()
  | .text content pos =>
    refine .pure fun T => ?_
    rw [Option.toList_some, Stmt.execAll_singleton, Stmt.exec, Node.renderWith]
    exact hR.evaluation _ (.append content)
  | .output expr pos =>
    rw [Node.operands] at hn
    rw [Node.outputs] at hev
    refine .bind (FilterExpr.yields_compile_output hS hn) fun e => .pure ?_
    rintro T ⟨heval, hpos⟩
    rw [Option.toList_some, Stmt.execAll_singleton, Stmt.ofExpr, Stmt.exec, Node.renderWith, hpos,
      heval]
    exact hR.evaluation _ (.bind (hev expr List.mem_cons_self) fun v => .emit opts v)
  | .conditional branches pos =>
    rw [Node.operands] at hn
    rw [Node.outputs] at hev
    refine .bind (Branches.yields_renderWith hS hR branches hn hev) fun arms =>
      .pure fun T harms => ?_
    rw [Option.toList_some, Stmt.execAll_singleton, Stmt.exec, Node.renderWith]
    exact hR.evaluation _ harms
  | .loop binding iterable body empty pos =>
    rw [Node.operands] at hn
    rw [Node.outputs] at hev
    refine .bind (FilterExpr.yields_compile_plain hS fun x hx => hn x (by simp [hx])) fun e => ?_
    refine .bind (Node.yields_renderAllWith hS hR body (fun x hx => hn x (by simp [hx]))
      (fun e he => hev e (by simp [he]))) fun inner => ?_
    refine .bind (Node.yields_renderOptWith hS hR empty (fun x hx => hn x (by simp [hx]))
      (fun e he => hev e (by simp [he]))) fun lacking => .pure ?_
    rintro T hempty hbody ⟨heval, hpos⟩
    rw [Option.toList_some, Stmt.execAll_singleton, Stmt.exec, Node.renderWith]
    have hitems : Simulates (Run.Matches heed C) (e.evalItems T) (iterable.evalItems r) := by
      rw [Expr.evalItems, FilterExpr.evalItems, heval, hpos]
      exact iterable.related_evalItems hR r
    refine hR.evaluation _ (.bind hitems fun items => ?_)
    cases items with
    | nil => exact hempty
    | cons item rest => exact hR.forEach binding (item :: rest) hbody
  | .filtered call body pos => exact .error _ _

/-- **The statements of nodes simulate the nodes**, if they do so in what is written out. -/
theorem Node.yields_renderAllWith (hS : ∀ p q, S p → S q → p.key = q.key → p = q)
    (hR : RenderM.Congruence opts opts (Simulates (Run.Matches heed C)))
    (ns : List Node) (hns : ∀ x ∈ Node.operandsAll ns, x.Among S)
    (hev : ∀ e ∈ Node.outputsAll ns, Simulates (Run.Matches heed C) (o.evalOutput r e) (ev e)) :
    CompileM.Yields (Tables.Sound S r) (Node.compileAll r o ns) fun T stmts =>
      Simulates (Run.Matches heed C) (Stmt.execAll T opts stmts)
        (Node.renderAllWith ev r opts ns) := by
  match ns with
  | [] =>
    refine .pure fun T => ?_
    rw [Node.renderAllWith]
    exact .pure ()
  | n :: rest =>
    rw [Node.operandsAll] at hns
    rw [Node.outputsAll] at hev
    refine .bind (Node.yields_renderWith hS hR n (fun x hx => hns x (by simp [hx]))
      (fun e he => hev e (by simp [he]))) fun stmt => ?_
    refine .bind (Node.yields_renderAllWith hS hR rest (fun x hx => hns x (by simp [hx]))
      (fun e he => hev e (by simp [he]))) fun stmts => .pure fun T hrest hfirst => ?_
    rw [Stmt.execAll_append, Node.renderAllWith]
    exact .bind hfirst fun _ => hrest

theorem Node.yields_renderOptWith (hS : ∀ p q, S p → S q → p.key = q.key → p = q)
    (hR : RenderM.Congruence opts opts (Simulates (Run.Matches heed C)))
    (ns : Option (List Node)) (hns : ∀ x ∈ Node.operandsOpt ns, x.Among S)
    (hev : ∀ e ∈ Node.outputsOpt ns, Simulates (Run.Matches heed C) (o.evalOutput r e) (ev e)) :
    CompileM.Yields (Tables.Sound S r) (Node.compileOpt r o ns) fun T stmts =>
      Simulates (Run.Matches heed C) (Stmt.execAll T opts stmts)
        (Node.renderOptWith ev r opts ns) := by
  match ns with
  | none =>
    refine .pure fun T => ?_
    rw [Node.renderOptWith]
    exact .pure ()
  | some body =>
    rw [Node.operandsOpt] at hns
    rw [Node.outputsOpt] at hev
    exact Node.yields_renderAllWith hS hR body hns hev

/-- The arms of a choice simulate its branches. -/
theorem Branches.yields_renderWith (hS : ∀ p q, S p → S q → p.key = q.key → p = q)
    (hR : RenderM.Congruence opts opts (Simulates (Run.Matches heed C))) (b : Branches)
    (hb : ∀ x ∈ b.operands, x.Among S)
    (hev : ∀ e ∈ b.outputs, Simulates (Run.Matches heed C) (o.evalOutput r e) (ev e)) :
    CompileM.Yields (Tables.Sound S r) (b.compile r o) fun T arms =>
      Simulates (Run.Matches heed C) (Arms.exec T opts arms) (b.renderWith ev r opts) := by
  match b with
  | .none =>
    refine .pure fun T => ?_
    rw [Arms.exec, Branches.renderWith]
    exact .pure ()
  | .otherwise body =>
    rw [Branches.operands] at hb
    rw [Branches.outputs] at hev
    refine .bind (Node.yields_renderAllWith hS hR body hb hev) fun inner => .pure fun T hinner => ?_
    rw [Arms.exec, Branches.renderWith]
    exact hinner
  | .when test body rest =>
    rw [Branches.operands] at hb
    rw [Branches.outputs] at hev
    refine .bind (Condition.yields_compile hS fun x hx => hb x (by simp [hx])) fun e => ?_
    refine .bind (Node.yields_renderAllWith hS hR body (fun x hx => hb x (by simp [hx]))
      (fun e he => hev e (by simp [he]))) fun inner => ?_
    refine .bind (Branches.yields_renderWith hS hR rest (fun x hx => hb x (by simp [hx]))
      (fun e he => hev e (by simp [he]))) fun arms => .pure fun T harms hinner heval => ?_
    -- Both sides branch on the truth of the same value.
    have hexec : Arms.exec T opts (.arm e inner arms) =
        test.eval r >>= fun holds =>
          if holds then Stmt.execAll T opts inner else Arms.exec T opts arms := by
      rw [Arms.exec, ← heval, bind_map_left]
    rw [hexec, Branches.renderWith]
    refine .bind (test.related_eval hR r) fun holds => ?_
    cases holds with
    | false => exact harms
    | true => exact hinner

end

end Statements

/-! ## Programs -/

/-- **A program simulates its template**, if it does so in what is written out. -/
theorem Template.simulates_execute {t : Template} {r : Registry} {c : CompileOptions}
    {name : Option String} {p : Program} {heed : Prop} {C : Call → Call → Prop}
    {ev : FilterExpr → RenderM Value} (hkeys : t.KeysDistinct)
    (hcompile : t.compile r c name = .ok p) (hC : ∀ c, C c c)
    (hev : ∀ e ∈ t.outputs, RenderM.Simulates (Run.Matches heed C) (c.evalOutput r e) (ev e))
    (o : Options) (hheed : o.cancellable = true → heed) :
    RenderM.Simulates (Run.Matches heed C) (p.execute o) (Node.renderAllWith ev r o t) := by
  obtain ⟨-, hbody⟩ := Template.compile_eq_ok_iff.mp hcompile
  have hpaths : ∀ x ∈ Node.operandsAll t, x.Among (· ∈ t.paths) := fun x hx p hp =>
    List.mem_filterMap.mpr ⟨x, hx, by rw [hp]; rfl⟩
  have hstmts := Node.yields_renderAllWith (S := (· ∈ t.paths))
    (fun p q hp hq => hkeys p hp q hq) (RenderM.Simulates.congruence hC o hheed) t hpaths hev
  obtain ⟨-, -, hsim⟩ := hstmts {} p.body p.tables Tables.sound_empty hbody
  exact hsim p.tables (.refl p.tables)

section Standard

variable {r : Registry}

/-- The standard filter `default` answers the same: its argument serves for an absent value. -/
theorem Registry.keepsFallbackAt_of_get? (h : r.get? "default" = some .default) {v : Value}
    (hv : v.isTruthy = true) : r.KeepsFallbackAt v := by
  intro f hf
  obtain rfl := Option.some.inj (h.symm.trans hf)
  have hnothing : Value.nothing.isTruthy = false := rfl
  simp [Filter.default, Filter.total, hv, hnothing]

theorem Registry.keepsFallback_of_get? (h : r.get? "default" = some .default) : r.KeepsFallback :=
  fun f hf _ hv => congrArg Reply.result (Registry.keepsFallbackAt_of_get? h hv f hf)

theorem Registry.keepsStops_of_get? (h : r.get? "default" = some .default) : r.KeepsStops :=
  fun f hf _ hv => congrArg Reply.cancels (Registry.keepsFallbackAt_of_get? h hv f hf)

theorem Registry.get?_default_standard : Registry.standard.get? "default" = some .default := by
  simp [Registry.standard, Registry.registerAll, Filter.standard, Filter.default, Filter.total,
    Filter.fallible, Filter.upper, Filter.lower, Filter.capfirst, Filter.title, Filter.length,
    Filter.first, Filter.last, Filter.join, Filter.add, Filter.yesno]

end Standard

/-- **A program is executed as its template is rendered**, from every run and with all options: the
result or error is the same, with its position, and so are the output, the counts and the variables.
The literals of `default` filters may serve as fallbacks if the filter `default` has the same result
for them as for an absent value, and calls for a stop just when it does so for an absent value. The
latter is asked only where such a call is heeded. -/
theorem execute_eq_render {t : Template} {r : Registry} {c : CompileOptions}
    {name : Option String} {p : Program} {o : Options} (hkeys : t.KeysDistinct)
    (hcompile : t.compile r c name = .ok p)
    (hdefault : c.defaultAsFallback = false ∨ r.KeepsFallback)
    (hstops : c.defaultAsFallback = false ∨ o.cancellable = false ∨ r.KeepsStops) (s : Run) :
    (p.execute o s).1 = (t.render r o s).1 ∧
      (p.execute o s).2.output = (t.render r o s).2.output ∧
      (p.execute o s).2.evaluations = (t.render r o s).2.evaluations ∧
      (p.execute o s).2.iterations = (t.render r o s).2.iterations ∧
      (p.execute o s).2.context = (t.render r o s).2.context ∧
      (c.defaultAsFallback = false ∨ r.KeepsStops →
        (p.execute o s).2.cancelled = (t.render r o s).2.cancelled) := by
  -- A call to stop is compared where the two sides make the same ones, and heeded there only.
  have hheed : o.cancellable = true → c.defaultAsFallback = false ∨ r.KeepsStops := fun hon =>
    hstops.imp_right fun h => h.resolve_left (by simp [hon])
  -- The calls of filters are not compared, so any two of them count as alike.
  have hev : ∀ e ∈ t.outputs, RenderM.Simulates
      (Run.Matches (c.defaultAsFallback = false ∨ r.KeepsStops) fun _ _ => True)
      (c.evalOutput r e) (e.eval r) := by
    intro e _
    refine CompileOptions.simulates_evalOutput (fun _ => trivial) r fun hon v hv => ⟨?_, trivial⟩
    have htrue : v.isTruthy = true := (FilterExpr.standIn?_eq_some hv).1
    have hnot : c.defaultAsFallback ≠ false := by simp [hon]
    exact fun f hf => ⟨hdefault.resolve_left hnot f hf v htrue,
      fun hkeeps => hkeeps.resolve_left hnot f hf v htrue⟩
  have hsim := Template.simulates_execute hkeys hcompile (fun _ => trivial) hev o hheed
  rw [Node.renderAllWith_eval] at hsim
  obtain ⟨hresult, hrun⟩ := hsim s s (.refl (fun _ => trivial) s)
  exact ⟨hresult, hrun.output, hrun.evaluations, hrun.iterations, hrun.context, hrun.cancelled⟩

/-- An absent variable whose literal default became a fallback: from a run that already wrote
something, the program writes what rendering writes, and a call to stop is heeded. -/
theorem execute_eq_render_fallback :
    let t : Template := [.output ⟨⟨.variable ⟨"x", []⟩, none⟩,
      [⟨"default", some ⟨.literal (.string "a"), none⟩, none⟩]⟩ none]
    let o : Options := { cancellable := true }
    let s : Run := { output := "b", evaluations := 3 }
    t.KeysDistinct ∧ Registry.standard.KeepsFallback ∧ Registry.standard.KeepsStops ∧
      ∃ p, t.compile .standard {} none = .ok p ∧
        (p.execute o s).1 = (t.render .standard o s).1 ∧
        (p.execute o s).2.output = (t.render .standard o s).2.output ∧
        (p.execute o s).2.evaluations = (t.render .standard o s).2.evaluations ∧
        (p.execute o s).2.iterations = (t.render .standard o s).2.iterations ∧
        (p.execute o s).2.context = (t.render .standard o s).2.context ∧
        (p.execute o s).2.cancelled = (t.render .standard o s).2.cancelled := by
  intro t o s
  have hkeys : t.KeysDistinct := by
    simp [t, Template.KeysDistinct, Template.paths, Template.operands, Node.operandsAll,
      Node.operands, FilterExpr.operands, Term.path?]
  have hfallback := Registry.keepsFallback_of_get? Registry.get?_default_standard
  have hstops := Registry.keepsStops_of_get? Registry.get?_default_standard
  obtain ⟨p, hcompile⟩ : ∃ p, t.compile .standard {} none = .ok p := ⟨_, rfl⟩
  obtain ⟨hresult, houtput, hevaluations, hiterations, hcontext, hcancelled⟩ :=
    execute_eq_render (o := o) hkeys hcompile (.inr hfallback) (.inr (.inr hstops)) s
  exact ⟨hkeys, hfallback, hstops, p, hcompile, hresult, houtput, hevaluations, hiterations,
    hcontext, hcancelled (.inr hstops)⟩

/-- **A `default` that calls for a stop tells fallbacks apart**, even if it has the same results for
them: here it does so on behalf of values that count as true. The program hands it the literal, and
the text behind the output is not written any more. The tree hands it an absent value and goes
on. -/
theorem stop_seen_of_fallback :
    let stopping : Filter :=
      { name := "default", arg := .required
        apply := fun v arg => { result := .ok (arg.getD .nothing), cancels := v.isTruthy } }
    let r : Registry := Registry.empty.register stopping
    let t : Template := [
      .output ⟨⟨.variable ⟨"x", []⟩, none⟩,
        [⟨"default", some ⟨.literal (.string "a"), none⟩, none⟩]⟩ none,
      .text "b" none]
    let o : Options := { cancellable := true }
    t.KeysDistinct ∧ r.KeepsFallback ∧
      ∃ p, t.compile r {} none = .ok p ∧
        (t.render r o {}).1 = .ok () ∧ (t.render r o {}).2.output = "ab" ∧
        (p.execute o {}).1 =
          .error { fault := .cancelled "render cancelled", pos := some .unknown } ∧
        (p.execute o {}).2.output = "a" := by
  intro stopping r t o
  have hget : r.get? "default" = some stopping := by simp [r, stopping]
  refine ⟨by decide +kernel, fun f hf v _ => ?_, _, rfl, ?_⟩
  · obtain rfl := Option.some.inj (hget.symm.trans hf)
    rfl
  · exact ⟨by decide +kernel, by decide +kernel, by decide +kernel, by decide +kernel⟩

end Stencil
