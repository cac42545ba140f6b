import Stencil.Proofs.Program.Failures
import Stencil.Proofs.Program.Problems

/-!
# How compiled templates fail with the standard filters

A template that compiles calls filters that exist, with arguments as these expect them. If the
filters are the standard ones, little is left that can go wrong in a run, be it of the tree or of
the program. The variable of an argument may be missing. A loop may have a text, a number or a truth
value to run through. The filter `yesno` may lack a second choice. And the options may set limits,
or allow the run to be called off. Each of these errors is at a place of its own in the template.

A variable anywhere else may be missing without harm. So it takes a variable as an argument for a
run to fail for want of a variable.

## Main definitions

* `Template.Faults`: the errors of a template that compiles with the standard filters

## Main results

* `Template.select_of_compile`: the filters of a template that compiles are found
* `Template.FailsFrom.faults`: what can go wrong at the nodes of a template that compiles
* `faults_of_compile`: a run of a template that compiles fails in these ways only
-/

namespace Stencil

/-- The errors of a template that compiles with the standard filters, when it is run with the
variables `c₀` and `look p` is looked up for each variable `p`. -/
inductive Template.Faults (t : Template) (look : Path → Path) (o : Options) (c₀ : Context) :
    RenderError → Prop
  /-- The variable of an argument is missing. The error is at the argument. -/
  | argument {n : Node} {c : Context} {call : FilterCall} {p : Path} {pos : Option Position}
      (hn : t.Reaches .standard look c₀ n c) (hcall : call ∈ n.calls)
      (harg : call.arg = some ⟨.variable p, pos⟩) (hmissing : c.find? (look p) = none) :
      Faults t look o c₀ { fault := .missingVariable p.key, pos := some (pos.getD .unknown) }
  /-- A loop has a text, a number or a truth value to run through. The error is at the
  expression. -/
  | iterable {binding : String} {iterable : FilterExpr} {body : List Node}
      {empty : Option (List Node)} {pos : Option Position} {c : Context} {v : Value}
      (hn : t.Reaches .standard look c₀ (.loop binding iterable body empty pos) c)
      (hv : ((iterable.rename look).eval .standard).GivesIn c v)
      (hkind : (∃ s, v = .string s) ∨ (∃ x, v = .number x) ∨ ∃ b, v = .bool b) :
      Faults t look o c₀
        { fault := .notIterable v.typeName, pos := some (iterable.outerPos.getD .unknown) }
  /-- The filter `yesno` has an argument without a comma. The error is at the call. -/
  | choices {n : Node} {c : Context} {call : FilterCall} {x : Operand} {v : Value}
      (hn : t.Reaches .standard look c₀ n c) (hcall : call ∈ n.calls)
      (hname : call.name = "yesno") (harg : call.arg = some x)
      (hv : (x.rename look).evalStrict.GivesIn c v) (hcomma : ',' ∉ v.text.toList) :
      Faults t look o c₀
        { Filter.tooFewChoices with pos := some (call.pos.getD .unknown) }
  /-- There is a limit to evaluations. The error is at a node, which is not a comment. -/
  | evaluations {n : Node} {max : Nat} (hn : n ∈ t.nodes) (hcomment : ∀ pos, n ≠ .comment pos)
      (hmax : o.maxEvaluations = some max) :
      Faults t look o c₀ { fault := .tooManyEvaluations max, pos := some n.place }
  /-- There is a limit to turns. The error is at a loop. -/
  | turns {binding : String} {iterable : FilterExpr} {body : List Node}
      {empty : Option (List Node)} {pos : Option Position} {max : Nat}
      (hn : Node.loop binding iterable body empty pos ∈ t.nodes)
      (hmax : o.maxIterations = some max) :
      Faults t look o c₀ { fault := .tooManyIterations max, pos := some (pos.getD .unknown) }
  /-- The run may be called off. The error is at a node, which is not a comment. -/
  | cancelled {n : Node} (hn : n ∈ t.nodes) (hcomment : ∀ pos, n ≠ .comment pos)
      (hcancel : o.cancellable = true) :
      Faults t look o c₀ { fault := .cancelled "render cancelled", pos := some n.place }

/-! ## What is in order in a template that compiles -/

section Compiled

variable {t : Template} {r : Registry} {c : CompileOptions} {name : Option String} {p : Program}

/-- A call without a problem finds its filter. -/
theorem FilterCall.select_of_problem?_eq_none {call : FilterCall} (h : call.problem? r = none) :
    ∃ f, r.select call.name call.arg.isSome = .ok f := by
  obtain ⟨out, hout⟩ := (FilterCall.reports_check r call {}).1 (by rw [h]; rfl)
  cases hcheck : call.check r with
  | error e =>
    rw [hcheck] at hout
    cases hout
  | ok f =>
    obtain ⟨hget, hfits⟩ := FilterCall.check_eq_ok_iff.mp hcheck
    exact ⟨f, by simp only [Registry.select, hget, hfits]⟩

/-- **The filters of a template that compiles are found**, and they take the arguments. -/
theorem Template.select_of_compile (hcompile : t.compile r c name = .ok p) {call : FilterCall}
    (hcall : call ∈ t.calls) : ∃ f, r.select call.name call.arg.isSome = .ok f := by
  apply FilterCall.select_of_problem?_eq_none
  cases hproblem : call.problem? r with
  | none => rfl
  | some problem =>
    obtain ⟨e, rest, hproblems⟩ := List.exists_cons_of_ne_nil
      (Template.problems_ne_nil hproblem hcall)
    rw [Template.compile_of_problems_eq_cons hproblems] at hcompile
    cases hcompile

end Compiled

/-! ## What is left to go wrong -/

/-- A loop cannot run through texts, numbers and truth values. -/
theorem Value.kind_of_items?_eq_none {v : Value} (h : v.items? = none) :
    (∃ s, v = .string s) ∨ (∃ x, v = .number x) ∨ ∃ b, v = .bool b := by
  cases v with
  | string s => exact .inl ⟨s, rfl⟩
  | number x => exact .inr (.inl ⟨x, rfl⟩)
  | bool b => exact .inr (.inr ⟨b, rfl⟩)
  | _ => cases h

/-- The value of the argument of a call is that of its operand. -/
theorem FilterCall.givesIn_of_evalArg {call : FilterCall} {c : Context} {v : Value}
    (h : call.evalArg.GivesIn c (some v)) : ∃ x, call.arg = some x ∧ x.evalStrict.GivesIn c v := by
  obtain ⟨s, u, hs, harg⟩ := h
  rcases call with ⟨name, _ | x, pos⟩
  · cases harg
  · obtain ⟨w, s', hw, hpure⟩ := RenderM.bind_eq_ok harg
    obtain rfl := Option.some.inj (Except.ok.inj (Prod.mk.inj hpure).1)
    exact ⟨x, rfl, s, s', hs, hw⟩

section Faults

variable {t : Template} {look : Path → Path} {o : Options} {c₀ c : Context} {calls : List Call}
  {e : RenderError} {n : Node}

/-- A call that finds its filter fails for want of its variable, or because it is one of `yesno`. -/
theorem FilterCall.FailsIn.faults {call : FilterCall} (hn : t.Reaches .standard look c₀ n c)
    (hcall : call ∈ n.calls) {f : Filter}
    (hselect : Registry.standard.select call.name call.arg.isSome = .ok f)
    (h : call.FailsIn .standard look c calls e) : t.Faults look o c₀ e := by
  cases h with
  | argument harg hmissing => exact .argument hn hcall harg hmissing
  | selection hother =>
    rw [hselect] at hother
    cases hother
  | answer hget _ hgives hresult =>
    obtain ⟨hname, rfl, a, rfl, hcomma⟩ := Registry.eq_yesno_of_error hget hresult
    obtain ⟨y, hy, hv⟩ := FilterCall.givesIn_of_evalArg hgives
    obtain ⟨x, harg, rfl⟩ := Option.map_eq_some_iff.mp hy
    exact .choices hn hcall hname harg hv hcomma

/-- **What is left to go wrong at the nodes of a template** whose calls find their filters. -/
theorem Template.FailsFrom.faults
    (hselect : ∀ call ∈ t.calls, ∃ f,
      Registry.standard.select call.name call.arg.isSome = .ok f)
    (h : t.FailsFrom .standard o look c₀ calls e) : t.Faults look o c₀ e := by
  obtain ⟨n, c, hn, hfails⟩ := h
  cases hfails with
  | @call _ call _ hcall hfails =>
    obtain ⟨f, hf⟩ := hselect call (List.mem_flatMap.mpr ⟨n, hn.mem_nodes, hcall⟩)
    exact hfails.faults hn hcall hf
  | iterable hv hitems => exact .iterable hn hv (Value.kind_of_items?_eq_none hitems)
  | turn hturn =>
    obtain ⟨max, hmax, rfl⟩ := Options.of_admitsIteration_eq_error hturn
    exact .turns hn.mem_nodes hmax
  | evaluation hcomment htick =>
    rcases Options.of_admitsEvaluation_eq_error htick with ⟨max, hmax, rfl⟩ | ⟨hcancel, rfl⟩
    · exact .evaluations hn.mem_nodes hcomment hmax
    · exact .cancelled hn.mem_nodes hcomment hcancel

/-- A run that fails for want of a variable does so for the variable of an argument, whose key it
tells. -/
theorem Template.Faults.exists_argument (h : t.Faults look o c₀ e)
    (hkind : e.fault.kind = .missingVariable) :
    ∃ call ∈ t.calls, ∃ x ∈ call.arg, ∃ q, x.term = .variable q ∧
      e.message = "variable does not exist: " ++ q.key := by
  cases h with
  | @argument n _ call q _ hn hcall harg _ =>
    have hmem : call ∈ t.calls := List.mem_flatMap.mpr ⟨n, hn.mem_nodes, hcall⟩
    exact ⟨call, hmem, _, harg, q, rfl, rfl⟩
  | _ => cases hkind

/-- If all arguments are literals, a run does not fail for want of a variable. -/
theorem Template.Faults.kind_ne_missingVariable (h : t.Faults look o c₀ e)
    (hliteral : ∀ call ∈ t.calls, ∀ x ∈ call.arg, ∃ v, x.term = .literal v) :
    e.fault.kind ≠ .missingVariable := by
  intro hkind
  obtain ⟨call, hcall, x, hx, q, hq, -⟩ := h.exists_argument hkind
  obtain ⟨v, hv⟩ := hliteral call hcall x hx
  cases hq.symm.trans hv

end Faults

/-- **A template that compiles fails in few ways with the standard filters**, whatever the
variables, the options and the run so far. In the tree each variable itself is looked up, in the
program the first one with its key; where keys are distinct, this is the same. An error for want of
a variable names the key of an argument, and there is none if all arguments are literals. -/
theorem faults_of_compile {t : Template} {c : CompileOptions} {name : Option String} {p : Program}
    (hcompile : t.compile .standard c name = .ok p) (o : Options) (s : Run) (e : RenderError) :
    ((t.render .standard o s).1 = .error e → t.Faults id o s.context e) ∧
      ((p.execute o s).1 = .error e → t.Faults t.leader o s.context e) ∧
      (t.KeysDistinct → ∀ q ∈ t.paths, t.leader q = q) ∧
      ((t.render .standard o s).1 = .error e ∨ (p.execute o s).1 = .error e →
        e.fault.kind = .missingVariable →
        ∃ call ∈ t.calls, ∃ x ∈ call.arg, ∃ q, x.term = .variable q ∧
          e.message = "variable does not exist: " ++ q.key) ∧
      ((∀ call ∈ t.calls, ∀ x ∈ call.arg, ∃ v, x.term = .literal v) →
        (t.render .standard o s).1 = .error e ∨ (p.execute o s).1 = .error e →
        e.fault.kind ≠ .missingVariable) := by
  have hselect : ∀ call ∈ t.calls, ∃ f,
      Registry.standard.select call.name call.arg.isSome = .ok f :=
    fun call hcall => Template.select_of_compile hcompile hcall
  have htree (he : (t.render .standard o s).1 = .error e) : t.Faults id o s.context e :=
    (Template.failsFrom_render he).faults hselect
  have hprogram (he : (p.execute o s).1 = .error e) : t.Faults t.leader o s.context e :=
    (Template.failsFrom_execute hcompile he).faults hselect
  refine ⟨htree, hprogram, fun hkeys q hq => hkeys.leader_eq_self hq, ?_, ?_⟩
  · rintro (he | he)
    · exact (htree he).exists_argument
    · exact (hprogram he).exists_argument
  · rintro hliteral (he | he)
    · exact (htree he).kind_ne_missingVariable hliteral
    · exact (hprogram he).kind_ne_missingVariable hliteral

/-- A loop in a loop, which is to run through a text that `join` has made: tree and program fail at
that filter, and the text is what the expression has in the frame of the first turn. The only
argument is a literal. -/
theorem faults_of_compile_nested :
    let t : Template := [
      .loop "x" ⟨⟨.variable ⟨"rows", []⟩, none⟩, []⟩ [
        .loop "y" ⟨⟨.variable ⟨"x", []⟩, none⟩,
          [⟨"join", some ⟨.literal (.string ", "), none⟩, some ⟨2, 17⟩⟩]⟩ [
            .output ⟨⟨.variable ⟨"y", []⟩, none⟩, []⟩ none] none none] none none]
    let s : Run := { context := Context.empty.set "rows" (.array [.array [.string "a"]]) }
    let e : RenderError := { fault := .notIterable "string", pos := some ⟨2, 17⟩ }
    ∃ p, t.compile .standard {} none = .ok p ∧
      (t.render .standard {} s).1 = .error e ∧ t.Faults id {} s.context e ∧
      (p.execute {} s).1 = .error e ∧ t.Faults t.leader {} s.context e ∧
      (∀ call ∈ t.calls, ∀ x ∈ call.arg, ∃ v, x.term = .literal v) ∧
      e.fault.kind ≠ .missingVariable := by
  intro t s e
  have htree : (t.render .standard {} s).1 = .error e := by decide +kernel
  have hprogram : (t.compile .standard {} none).toOption.map (fun p => (p.execute {} s).1) =
      some (.error e) := by decide +kernel
  have hliteral : ∀ call ∈ t.calls, ∀ x ∈ call.arg, ∃ v, x.term = .literal v := by
    have hcalls : t.calls = [⟨"join", some ⟨.literal (.string ", "), none⟩, some ⟨2, 17⟩⟩] := rfl
    simp [hcalls]
  cases hcompile : t.compile .standard {} none with
  | error _ =>
    rw [hcompile] at hprogram
    cases hprogram
  | ok p =>
    rw [hcompile] at hprogram
    have he : (p.execute {} s).1 = .error e := Option.some.inj hprogram
    obtain ⟨hfaults, hfaults', -, -, hnever⟩ := faults_of_compile hcompile {} s e
    exact ⟨p, rfl, htree, hfaults htree, he, hfaults' he, hliteral, hnever hliteral (.inl htree)⟩

end Stencil
