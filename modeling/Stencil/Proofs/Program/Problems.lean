import Stencil.Proofs.Template.Nodes
import Stencil.Program.Compile

/-!
# What the compiler reports

What keeps a template from being compiled can be listed without compiling it: calls that ask for an
unknown filter or have the wrong argument, and blocks that are sent through a filter, in the order
in which the template is read. The compiler accepts the templates that have no problem, and it
rejects the others with the first one. What stands inside a block is not looked at, since the block
itself is a problem.

## Main definitions

* `FilterCall.problem?`: what is wrong with a call
* `Node.problems`, `Template.problems`: what is wrong with a template, in the order of reading
* `CompileM.Reports x problems`: the part `x` of a compilation fails with the first of the problems,
  and only if there is one

## Main results

* `CompileM.Reports.bind`: the problems of parts one after the other
* `Node.reports_compileAll`: the nodes of a template report their first problem
* `compile_eq_error_iff_head_problems`: which templates are compiled, and how the others fail
* `Template.problems_ne_nil`: wherever a call is wrong, the template has a problem
-/

namespace Stencil

/-! ## Problems -/

/-- What is wrong with a call: the registry lacks the filter, the filter takes no argument and the
call has one, or the filter requires one and the call has none. -/
def FilterCall.problem? (r : Registry) (call : FilterCall) : Option CompileError :=
  match r.get? call.name with
  | none => some (.unknownFilter call.name (call.pos.getD .unknown))
  | some f =>
    match f.arg, call.arg with
    | .forbidden, some _ =>
      some (.filterArity call.name "takes no argument" (call.pos.getD .unknown))
    | .required, none =>
      some (.filterArity call.name "requires an argument" (call.pos.getD .unknown))
    | _, _ => none

/-- What is wrong with the calls of an expression, from left to right. -/
def FilterExpr.problems (r : Registry) (e : FilterExpr) : List CompileError :=
  e.filters.filterMap (FilterCall.problem? r)

mutual

/-- What is wrong with a node. -/
def Node.problems (r : Registry) : Node → List CompileError
  | .text _ _ => []
  | .comment _ => []
  | .output expr _ => expr.problems r
  | .conditional branches _ => Branches.problems r branches
  | .loop _ iterable body empty _ =>
    iterable.problems r ++ (Node.problemsAll r body ++ Node.problemsOpt r empty)
  | .filtered _ _ pos => [.unsupported "filter block" (pos.getD .unknown)]

/-- What is wrong with nodes, one after the other. -/
def Node.problemsAll (r : Registry) : List Node → List CompileError
  | [] => []
  | n :: rest => Node.problems r n ++ Node.problemsAll r rest

/-- What is wrong with a body that may be lacking. -/
def Node.problemsOpt (r : Registry) : Option (List Node) → List CompileError
  | none => []
  | some body => Node.problemsAll r body

/-- What is wrong with branches: each test before its body. -/
def Branches.problems (r : Registry) : Branches → List CompileError
  | .none => []
  | .otherwise body => Node.problemsAll r body
  | .when test body rest =>
    test.test.problems r ++ (Node.problemsAll r body ++ Branches.problems r rest)

end

/-- What is wrong with a template, in the order in which it is read. -/
def Template.problems (r : Registry) (t : Template) : List CompileError :=
  Node.problemsAll r t

/-! ## Reports -/

/-- From all tables, this part of a compilation succeeds if there is no problem, and otherwise fails
with the first one. -/
def CompileM.Reports {α : Type} (x : CompileM α) (problems : List CompileError) : Prop :=
  ∀ t, (problems = [] → ∃ out, x t = .ok out) ∧ ∀ e rest, problems = e :: rest → x t = .error e

namespace CompileM.Reports

variable {α β : Type}

/-- There is no problem with a part that always succeeds. -/
theorem of_succeeds {x : CompileM α} (h : ∀ t, ∃ out, x t = .ok out) : Reports x [] :=
  fun t => ⟨fun _ => h t, fun _ _ hcons => nomatch hcons⟩

theorem pure (a : α) : Reports (Pure.pure a) [] :=
  of_succeeds fun t => ⟨(a, t), rfl⟩

theorem enter (f : Tables → α × Tables) : Reports (CompileM.enter f) [] :=
  of_succeeds fun t => ⟨f t, rfl⟩

theorem error (e : CompileError) : Reports (CompileM.ofExcept (.error e) : CompileM α) [e] := by
  refine fun t => ⟨fun hnil => (nomatch hnil), fun e' rest hcons => ?_⟩
  rw [← (List.cons.inj hcons).1]
  rfl

/-- **Parts one after the other**: the problems of the second part come behind those of the first
one, whatever that gives. -/
theorem bind {x : CompileM α} {f : α → CompileM β} {first second : List CompileError}
    (hx : Reports x first) (hf : ∀ a, Reports (f a) second) :
    Reports (x >>= f) (first ++ second) := by
  intro t
  cases first with
  | nil =>
    -- Nothing is wrong before the second part, which then decides.
    obtain ⟨⟨a, u⟩, hu⟩ := (hx t).1 rfl
    have hbind : (x >>= f) t = f a u := by
      simp only [Bind.bind, hu]
    rw [hbind]
    exact hf a u
  | cons e rest =>
    have hbind : (x >>= f) t = .error e := by
      simp only [Bind.bind, (hx t).2 e rest rfl]
    refine ⟨fun hnil => (nomatch hnil), fun e' rest' hcons => ?_⟩
    rw [hbind, (List.cons.inj hcons).1]

/-- A part that has no problems of its own before another one. -/
theorem bind_nil {x : CompileM α} {f : α → CompileM β} {problems : List CompileError}
    (hx : Reports x []) (hf : ∀ a, Reports (f a) problems) : Reports (x >>= f) problems :=
  bind hx hf

/-- A part that has no problems of its own behind another one. -/
theorem bind_pure {x : CompileM α} {g : α → β} {problems : List CompileError}
    (hx : Reports x problems) : Reports (x >>= fun a => Pure.pure (g a)) problems := by
  have h := bind hx fun a => pure (g a)
  rwa [List.append_nil] at h

end CompileM.Reports

open CompileM (Reports)

section Compile

variable (r : Registry)

theorem Operand.reports_compile (mode : Resolution) (x : Operand) :
    Reports (x.compile mode) [] := by
  rcases x with ⟨v | p, pos⟩
  · exact .pure _
  · exact .bind_nil (.enter _) fun e => .pure _

theorem FilterCall.reports_check (call : FilterCall) :
    Reports (CompileM.ofExcept (call.check r)) (call.problem? r).toList := by
  rw [FilterCall.check, FilterCall.problem?]
  cases r.get? call.name with
  | none => exact .error _
  | some f =>
    -- Six cases: what the filter asks for, and whether the call has an argument.
    rcases f with ⟨name, _ | _ | _, apply⟩ <;> cases call.arg
    · exact .of_succeeds fun t => ⟨_, rfl⟩
    · exact .error _
    · exact .of_succeeds fun t => ⟨_, rfl⟩
    · exact .of_succeeds fun t => ⟨_, rfl⟩
    · exact .error _
    · exact .of_succeeds fun t => ⟨_, rfl⟩

theorem FilterCall.reports_compile (call : FilterCall) (input : Expr) :
    Reports (call.compile r input) (call.problem? r).toList := by
  have harg : Reports call.compileArg [] := by
    rw [FilterCall.compileArg]
    cases call.arg with
    | none => exact .pure none
    | some x => exact .bind_pure (x.reports_compile .strict)
  rw [← List.append_nil (call.problem? r).toList]
  refine .bind (call.reports_check r) fun f => ?_
  exact .bind_nil (.enter _) fun handle => .bind_pure harg

theorem FilterCall.reports_compileAll (calls : List FilterCall) (input : Expr) :
    Reports (FilterCall.compileAll r calls input) (calls.filterMap (FilterCall.problem? r)) := by
  induction calls generalizing input with
  | nil => exact .pure input
  | cons call rest ih =>
    have hcons : (call :: rest).filterMap (FilterCall.problem? r) =
        (call.problem? r).toList ++ rest.filterMap (FilterCall.problem? r) := by
      rw [List.filterMap_cons]
      cases call.problem? r <;> rfl
    rw [hcons]
    exact .bind (call.reports_compile r input) ih

theorem FilterExpr.reports_compile (mode : Resolution) (e : FilterExpr) :
    Reports (e.compile r mode) (e.problems r) :=
  .bind_nil (e.base.reports_compile mode) (FilterCall.reports_compileAll r e.filters)

variable (c : CompileOptions)

mutual

theorem Node.reports_compile (n : Node) : Reports (n.compile r c) (n.problems r) := by
  match n with
  | .text content pos =>
    rw [Node.compile, Node.problems]
    exact .pure _
  | .comment pos =>
    rw [Node.compile, Node.problems]
    exact .pure _
  | .output expr pos =>
    rw [Node.compile, Node.problems]
    exact .bind_pure (expr.reports_compile r _)
  | .conditional branches pos =>
    rw [Node.compile, Node.problems]
    exact .bind_pure (Branches.reports_compile branches)
  | .loop binding iterable body empty pos =>
    rw [Node.compile, Node.problems]
    refine .bind (iterable.reports_compile r _) fun e => ?_
    refine .bind (Node.reports_compileAll body) fun inner => ?_
    exact .bind_pure (Node.reports_compileOpt empty)
  | .filtered call body pos =>
    rw [Node.compile, Node.problems]
    exact .error _

/-- **Nodes report the first of their problems.** -/
theorem Node.reports_compileAll (ns : List Node) :
    Reports (Node.compileAll r c ns) (Node.problemsAll r ns) := by
  match ns with
  | [] =>
    rw [Node.compileAll, Node.problemsAll]
    exact .pure []
  | n :: rest =>
    rw [Node.compileAll, Node.problemsAll]
    exact .bind (Node.reports_compile n) fun stmt => .bind_pure (Node.reports_compileAll rest)

theorem Node.reports_compileOpt (ns : Option (List Node)) :
    Reports (Node.compileOpt r c ns) (Node.problemsOpt r ns) := by
  match ns with
  | none =>
    rw [Node.compileOpt, Node.problemsOpt]
    exact .pure []
  | some body =>
    rw [Node.compileOpt, Node.problemsOpt]
    exact Node.reports_compileAll body

theorem Branches.reports_compile (b : Branches) : Reports (b.compile r c) (b.problems r) := by
  match b with
  | .none =>
    rw [Branches.compile, Branches.problems]
    exact .pure _
  | .otherwise body =>
    rw [Branches.compile, Branches.problems]
    exact .bind_pure (Node.reports_compileAll body)
  | .when test body rest =>
    rw [Branches.compile, Branches.problems]
    refine .bind (.bind_pure (test.test.reports_compile r _)) fun e => ?_
    refine .bind (Node.reports_compileAll body) fun inner => ?_
    exact .bind_pure (Branches.reports_compile rest)

end

end Compile

/-! ## Calls that are wrong -/

section Calls

variable {r : Registry} {call : FilterCall} {problem : CompileError}

theorem FilterExpr.problems_ne_nil (hproblem : call.problem? r = some problem) {e : FilterExpr}
    (hcall : call ∈ e.filters) : e.problems r ≠ [] :=
  List.ne_nil_of_mem (List.mem_filterMap.mpr ⟨call, hcall, hproblem⟩)

theorem Branches.problems_ne_nil_of_tests (hproblem : call.problem? r = some problem)
    {b : Branches} {e : FilterExpr} (he : e ∈ b.tests) (hcall : call ∈ e.filters) :
    b.problems r ≠ [] := by
  match b with
  | .none => exact (List.not_mem_nil he).elim
  | .otherwise body => exact (List.not_mem_nil he).elim
  | .when test body rest =>
    rw [Branches.problems]
    rcases List.mem_cons.mp he with rfl | he
    · exact List.append_ne_nil_of_left_ne_nil (FilterExpr.problems_ne_nil hproblem hcall) _
    · apply List.append_ne_nil_of_right_ne_nil
      apply List.append_ne_nil_of_right_ne_nil
      exact Branches.problems_ne_nil_of_tests hproblem he hcall

mutual

theorem Node.problems_ne_nil (hproblem : call.problem? r = some problem) (n : Node) {m : Node}
    (hm : m ∈ n.nodes) (hcall : call ∈ m.calls) : n.problems r ≠ [] := by
  match n with
  | .text content pos =>
    rw [List.mem_singleton.mp hm] at hcall
    exact (List.not_mem_nil hcall).elim
  | .comment pos =>
    rw [List.mem_singleton.mp hm] at hcall
    exact (List.not_mem_nil hcall).elim
  | .output expr pos =>
    rw [List.mem_singleton.mp hm] at hcall
    rw [Node.problems]
    have hfilter : call ∈ expr.filters := by simpa [Node.calls, Node.exprs, Node.block?] using hcall
    exact FilterExpr.problems_ne_nil hproblem hfilter
  | .conditional branches pos =>
    rw [Node.nodes] at hm
    rw [Node.problems]
    rcases List.mem_cons.mp hm with rfl | hm
    · have htest : ∃ e ∈ branches.tests, call ∈ e.filters := by
        simpa [Node.calls, Node.exprs, Node.block?] using hcall
      obtain ⟨e, he, hfilter⟩ := htest
      exact Branches.problems_ne_nil_of_tests hproblem he hfilter
    · exact Branches.problems_ne_nil hproblem branches hm hcall
  | .loop binding iterable body empty pos =>
    rw [Node.nodes] at hm
    rw [Node.problems]
    rcases List.mem_cons.mp hm with rfl | hm
    · have hfilter : call ∈ iterable.filters := by
        simpa [Node.calls, Node.exprs, Node.block?] using hcall
      exact List.append_ne_nil_of_left_ne_nil (FilterExpr.problems_ne_nil hproblem hfilter) _
    · apply List.append_ne_nil_of_right_ne_nil
      rcases List.mem_append.mp hm with hm | hm
      · exact List.append_ne_nil_of_left_ne_nil (Node.problemsAll_ne_nil hproblem body hm hcall) _
      · exact List.append_ne_nil_of_right_ne_nil _ (Node.problemsOpt_ne_nil hproblem empty hm hcall)
  | .filtered other body pos =>
    -- The block itself is a problem, whatever is in it.
    rw [Node.problems]
    exact List.cons_ne_nil _ _

theorem Node.problemsAll_ne_nil (hproblem : call.problem? r = some problem) (ns : List Node)
    {m : Node} (hm : m ∈ Node.nodesAll ns) (hcall : call ∈ m.calls) :
    Node.problemsAll r ns ≠ [] := by
  match ns with
  | [] => exact (List.not_mem_nil hm).elim
  | n :: rest =>
    rw [Node.problemsAll]
    rcases List.mem_append.mp hm with hm | hm
    · exact List.append_ne_nil_of_left_ne_nil (Node.problems_ne_nil hproblem n hm hcall) _
    · exact List.append_ne_nil_of_right_ne_nil _ (Node.problemsAll_ne_nil hproblem rest hm hcall)

theorem Node.problemsOpt_ne_nil (hproblem : call.problem? r = some problem)
    (ns : Option (List Node)) {m : Node} (hm : m ∈ Node.nodesOpt ns) (hcall : call ∈ m.calls) :
    Node.problemsOpt r ns ≠ [] := by
  match ns with
  | none => exact (List.not_mem_nil hm).elim
  | some body =>
    rw [Node.problemsOpt]
    exact Node.problemsAll_ne_nil hproblem body hm hcall

theorem Branches.problems_ne_nil (hproblem : call.problem? r = some problem) (b : Branches)
    {m : Node} (hm : m ∈ b.nodes) (hcall : call ∈ m.calls) : b.problems r ≠ [] := by
  match b with
  | .none => exact (List.not_mem_nil hm).elim
  | .otherwise body =>
    rw [Branches.problems]
    exact Node.problemsAll_ne_nil hproblem body hm hcall
  | .when test body rest =>
    rw [Branches.problems]
    apply List.append_ne_nil_of_right_ne_nil
    rcases List.mem_append.mp hm with hm | hm
    · exact List.append_ne_nil_of_left_ne_nil (Node.problemsAll_ne_nil hproblem body hm hcall) _
    · exact List.append_ne_nil_of_right_ne_nil _ (Branches.problems_ne_nil hproblem rest hm hcall)

end

/-- **Wherever a call is wrong, the template has a problem**: the call, or the block that it is
in. -/
theorem Template.problems_ne_nil (hproblem : call.problem? r = some problem) {t : Template}
    (hcall : call ∈ t.calls) : t.problems r ≠ [] := by
  obtain ⟨m, hm, hcall⟩ := List.mem_flatMap.mp hcall
  exact Node.problemsAll_ne_nil hproblem t hm hcall

end Calls

/-! ## Templates -/

section Templates

variable {t : Template} {r : Registry}

/-- A template without problems is compiled. -/
theorem Template.compile_of_problems_eq_nil (h : t.problems r = []) (c : CompileOptions)
    (name : Option String) : ∃ p, t.compile r c name = .ok p := by
  obtain ⟨⟨body, tables⟩, hout⟩ := (Node.reports_compileAll r c t {}).1 h
  exact ⟨{ name, body, tables }, Template.compile_eq_ok_iff.mpr ⟨rfl, hout⟩⟩

/-- A template with problems fails with the first one. -/
theorem Template.compile_of_problems_eq_cons {e : CompileError} {rest : List CompileError}
    (h : t.problems r = e :: rest) (c : CompileOptions) (name : Option String) :
    t.compile r c name = .error e :=
  Template.compile_eq_error_iff.mpr ((Node.reports_compileAll r c t {}).2 e rest h)

end Templates

/-- **The compiler accepts exactly the templates without problems, and rejects the others with the
first one**, whatever the options and the name. -/
theorem compile_eq_error_iff_head_problems (t : Template) (r : Registry) (c : CompileOptions)
    (name : Option String) :
    ((∃ p, t.compile r c name = .ok p) ↔ t.problems r = []) ∧
      ∀ e, t.compile r c name = .error e ↔ (t.problems r).head? = some e := by
  cases hproblems : t.problems r with
  | nil =>
    obtain ⟨p, hp⟩ := Template.compile_of_problems_eq_nil hproblems c name
    rw [hp]
    constructor
    · exact ⟨fun _ => rfl, fun _ => ⟨p, rfl⟩⟩
    · intro e
      constructor <;> intro h <;> cases h
  | cons first rest =>
    rw [Template.compile_of_problems_eq_cons hproblems c name, List.head?_cons]
    constructor
    · constructor
      · rintro ⟨p, hp⟩
        cases hp
      · intro h
        cases h
    · intro e
      constructor <;> intro h <;> cases h <;> rfl

end Stencil
