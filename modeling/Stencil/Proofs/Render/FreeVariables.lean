import Stencil.Proofs.Program.Calls
import Stencil.Proofs.Render.Frames

/-!
# Renderings depend on the free variables only

A variable of a template is free unless it stands in the body of a loop that binds it: a loop binds
its own variable and `forloop`, in its body only. Two contexts with the same values for the free
variables are told apart by no rendering, however many frames they have and whatever else is in
them. What a rendering leaves behind is then the same too, but for the contexts themselves, which
are as they were before.

Inside a loop the two contexts are no longer those of the beginning. Each has a frame of its own on
top, and what the loop binds is the same in both; so there they agree on more names than before.

## Main definitions

* `Node.freeNames`, `Template.freeNames`: the first names of the free variables
* `Context.AgreeOn names c d`: the contexts have the same values for these names
* `Run.Twins c d s t`: runs that differ in their contexts only, which are `c` and `d`

## Main results

* `Context.AgreeOn.bindItem`: the contexts in a turn of a loop
* `RenderM.Simulates.forEach_twins`: loops in contexts that agree
* `Node.simulates_renderAllWith`: renderings in contexts that agree
* `render_execute_of_agreeOn_freeNames`: what two contexts must share for the same outcome
-/

namespace Stencil

/-! ## Free variables -/

/-- The first name of the variable that an operand looks up. -/
def Operand.name? (x : Operand) : Option String :=
  x.term.path?.map Path.head

/-- The names of the variables of an expression. -/
def FilterExpr.names (e : FilterExpr) : List String :=
  e.operands.filterMap Operand.name?

mutual

/-- The names of the free variables of a node. The variable of a loop and `forloop` are bound in its
body, but not in what it runs through, nor in what stands for the lack of items. -/
def Node.freeNames : Node → List String
  | .text _ _ => []
  | .comment _ => []
  | .output expr _ => expr.names
  | .conditional branches _ => Branches.freeNames branches
  | .loop binding iterable body empty _ =>
    iterable.names ++
      ((Node.freeNamesAll body).filter (fun x => x ≠ binding ∧ x ≠ "forloop") ++
        Node.freeNamesOpt empty)
  | .filtered call body _ => Node.freeNamesAll body ++ call.arg.toList.filterMap Operand.name?

/-- The names of the free variables of nodes. -/
def Node.freeNamesAll : List Node → List String
  | [] => []
  | n :: rest => Node.freeNames n ++ Node.freeNamesAll rest

/-- The names of the free variables of a body that may be lacking. -/
def Node.freeNamesOpt : Option (List Node) → List String
  | none => []
  | some body => Node.freeNamesAll body

/-- The names of the free variables of the branches of a choice. -/
def Branches.freeNames : Branches → List String
  | .none => []
  | .otherwise body => Node.freeNamesAll body
  | .when test body rest => test.test.names ++ (Node.freeNamesAll body ++ Branches.freeNames rest)

end

/-- The names of the free variables of a template. -/
def Template.freeNames (t : Template) : List String :=
  Node.freeNamesAll t

/-! ## Contexts that agree -/

namespace Context

/-- The contexts have the same values, or lack the same ones, for the given names. -/
def AgreeOn (names : List String) (c d : Context) : Prop :=
  ∀ x ∈ names, c.get? x = d.get? x

variable {names others : List String} {c d : Context}

theorem AgreeOn.mono (h : AgreeOn names c d) (hsub : others ⊆ names) : AgreeOn others c d :=
  fun x hx => h x (hsub hx)

theorem agreeOn_append :
    AgreeOn (names ++ others) c d ↔ AgreeOn names c d ∧ AgreeOn others c d :=
  List.forall_mem_append

theorem find?_eq_of_get?_eq {p : Path} (h : c.get? p.head = d.get? p.head) :
    c.find? p = d.find? p := by
  rw [find?, find?, h]

/-- **In a turn of a loop** contexts also agree on the names that the loop binds. -/
theorem AgreeOn.bindItem {binding : String}
    (h : AgreeOn (names.filter fun x => x ≠ binding ∧ x ≠ "forloop") c d) (item : Value)
    (index count : UInt64) :
    AgreeOn names (c.bindItem binding item index count) (d.bindItem binding item index count) := by
  intro x hx
  rw [Context.bindItem, Context.bindItem, get?_set, get?_set, get?_set, get?_set]
  by_cases hbinding : x = binding
  · rw [if_pos hbinding, if_pos hbinding]
  by_cases hloop : x = "forloop"
  · rw [if_pos hloop, if_pos hloop]
  · rw [if_neg hbinding, if_neg hbinding, if_neg hloop, if_neg hloop]
    exact h x (List.mem_filter.mpr ⟨hx, decide_eq_true ⟨hbinding, hloop⟩⟩)

end Context

open Context (AgreeOn)

/-! ## Runs that differ in their contexts -/

/-- The runs differ in their contexts only, which are `c` and `d`. -/
def Run.Twins (c d : Context) (s t : Run) : Prop :=
  s.context = c ∧ t = { s with context := d }

/-- Runs between the turns of a loop that was entered in `c` and `d`: each context has one more
frame on top, and they agree on the given names. -/
def Run.TwinsAbove (names : List String) (c d : Context) (s t : Run) : Prop :=
  ∃ c' d', c'.Above c ∧ d'.Above d ∧ AgreeOn names c' d' ∧ s.Twins c' d' t

open Run (Twins)
open RenderM (Simulates)

namespace RenderM.Simulates

variable {α : Type} {c d : Context}

/-- A step that neither asks nor changes the context does the same in twins. -/
theorem twins_of_frame {x : RenderM α}
    (h : ∀ s d, x { s with context := d } = ((x s).1, { (x s).2 with context := d })) :
    Simulates (Twins c d) x x := by
  rintro s _ ⟨hs, rfl⟩
  have hkept : (x s).2.context = s.context := congrArg (fun out => out.2.context) (h s s.context)
  rw [h s d]
  exact ⟨rfl, hkept.trans hs, rfl⟩

theorem append_twins (text : String) :
    Simulates (Twins c d) (RenderM.append text) (RenderM.append text) :=
  twins_of_frame fun _ _ => rfl

theorem evaluation_twins {x y : RenderM Unit} (hxy : Simulates (Twins c d) x y) (o : Options)
    (pos : Position) :
    Simulates (Twins c d) (RenderM.evaluation o pos x) (RenderM.evaluation o pos y) :=
  .located pos (.bind (twins_of_frame fun _ _ => rfl) fun _ => hxy)

/-- Variables are found alike where the contexts agree. -/
theorem resolve_twins {p : Path} (h : c.get? p.head = d.get? p.head) :
    Simulates (Twins c d) (RenderM.resolve p) (RenderM.resolve p) := by
  rintro s _ ⟨rfl, rfl⟩
  rw [RenderM.resolve, RenderM.resolve, Context.find?_eq_of_get?_eq h]
  cases d.find? p with
  | some v => exact ⟨rfl, rfl, rfl⟩
  | none => exact ⟨rfl, rfl, rfl⟩

theorem resolveOr_twins {p : Path} (h : c.get? p.head = d.get? p.head)
    (fallback : Option Value) :
    Simulates (Twins c d) (RenderM.resolveOr p fallback) (RenderM.resolveOr p fallback) := by
  rintro s _ ⟨rfl, rfl⟩
  rw [RenderM.resolveOr, RenderM.resolveOr, Context.find?_eq_of_get?_eq h]
  exact ⟨rfl, rfl, rfl⟩

theorem captured_twins {x y : RenderM Unit} (hxy : Simulates (Twins c d) x y) :
    Simulates (Twins c d) (RenderM.captured x) (RenderM.captured y) := by
  rintro s _ ⟨hs, rfl⟩
  obtain ⟨hres, hrun, htwin⟩ := hxy { s with output := "" } _ ⟨hs, rfl⟩
  rw [RenderM.captured_apply, RenderM.captured_apply]
  rcases hx : x { s with output := "" } with ⟨res, u⟩
  rcases hy : y { s with output := "", context := d } with ⟨res', u'⟩
  rw [hx] at hres hrun htwin
  rw [hy] at hres htwin
  obtain rfl : res = res' := hres
  obtain rfl : u' = { u with context := d } := htwin
  cases res with
  | ok _ => exact ⟨rfl, hrun, rfl⟩
  | error _ => exact ⟨rfl, hrun, rfl⟩

/-! ### Loops -/

/-- A step in a frame of its own does the same in twins, if it does the same in twins with a frame
on top and leaves the frames below alone. -/
theorem inFrame_twins {names : List String} (h : AgreeOn names c d) {x y : RenderM α}
    (hxy : Simulates (Run.TwinsAbove names c d) x y) :
    Simulates (Twins c d) (RenderM.inFrame x) (RenderM.inFrame y) := by
  rintro s _ ⟨rfl, rfl⟩
  obtain ⟨hres, c', d', hc, hd, -, hs, ht⟩ :=
    hxy { s with context := s.context.push } { s with context := d.push }
      ⟨_, _, Context.above_push _, Context.above_push d, h, rfl, rfl⟩
  refine ⟨hres, ?_, ?_⟩
  · rw [← hs] at hc
    exact hc.pop_eq
  · simp only [RenderM.inFrame, ht, hd.pop_eq]

/-- The turns of a loop, whose body does the same in contexts that agree on all names. -/
theorem turns_twins {names : List String} {binding : String} {x : RenderM Unit}
    (hx : ∀ c d, AgreeOn names c d → Simulates (Twins c d) x x) (o : Options) (count index : Nat)
    (items : List Value) :
    Simulates
      (Run.TwinsAbove (names.filter fun x => x ≠ binding ∧ x ≠ "forloop") c d)
      (RenderM.turns o binding x count index items)
      (RenderM.turns o binding x count index items) := by
  induction items generalizing index with
  | nil => exact .pure ()
  | cons item rest ih =>
    rw [RenderM.turns]
    refine .bind ?_ fun _ => ?_
    · rintro s t ⟨c', d', hc, hd, hagree, htwins⟩
      obtain ⟨hres, hrun⟩ := twins_of_frame (x := RenderM.turn o) (fun _ _ => rfl) s t htwins
      exact ⟨hres, c', d', hc, hd, hagree, hrun⟩
    rw [← bind_assoc]
    refine .bind ?_ fun _ => ih (index + 1)
    -- The body begins where the names of the loop are bound, alike in both contexts.
    rintro s _ ⟨c', d', hc, hd, hagree, rfl, rfl⟩
    have hbound := hagree.bindItem item (.ofNat index) (.ofNat count)
    obtain ⟨hres, hrun⟩ := hx _ _ hbound
      { s with context := s.context.bindItem binding item (.ofNat index) (.ofNat count) } _
      ⟨rfl, rfl⟩
    exact ⟨hres, _, _, hc.bindItem binding item _ _, hd.bindItem binding item _ _,
      hbound.mono (List.filter_subset_self _), hrun⟩

/-- **A loop does the same in contexts that agree**, up to the names it binds, if its body does so
in contexts that agree on all names. -/
theorem forEach_twins {names : List String} {binding : String}
    (h : AgreeOn (names.filter fun x => x ≠ binding ∧ x ≠ "forloop") c d) {x : RenderM Unit}
    (hx : ∀ c d, AgreeOn names c d → Simulates (Twins c d) x x) (o : Options)
    (items : List Value) :
    Simulates (Twins c d) (RenderM.forEach o binding items x)
      (RenderM.forEach o binding items x) :=
  inFrame_twins h (turns_twins hx o items.length 0 items)

end RenderM.Simulates

/-! ## Renderings -/

section Renderings

variable (r : Registry) {c d : Context}

theorem FilterCall.simulates_apply {call : FilterCall}
    (h : AgreeOn (call.arg.toList.filterMap Operand.name?) c d) (v : Value) :
    Simulates (Twins c d) (call.apply r v) (call.apply r v) := by
  have harg : Simulates (Twins c d) call.evalArg call.evalArg := by
    rcases call with ⟨name, _ | ⟨w | p, pos⟩, callPos⟩
    · exact .pure none
    · exact .pure (some w)
    · have hp : c.get? p.head = d.get? p.head := h p.head (List.mem_singleton_self _)
      exact .bind (.located _ (.resolve_twins hp)) fun w => .pure (some w)
  refine .bind harg fun arg => .located _ ?_
  rw [Registry.call]
  cases r.select call.name arg.isSome with
  | ok f => exact .twins_of_frame fun _ _ => rfl
  | error e => exact .ofExcept _

theorem FilterCall.simulates_applyAll {calls : List FilterCall}
    (h : AgreeOn ((calls.filterMap FilterCall.arg).filterMap Operand.name?) c d) (v : Value) :
    Simulates (Twins c d) (FilterCall.applyAll r calls v) (FilterCall.applyAll r calls v) := by
  induction calls generalizing v with
  | nil => exact .pure v
  | cons call rest ih =>
    have hnames : ((call :: rest).filterMap FilterCall.arg).filterMap Operand.name? =
        call.arg.toList.filterMap Operand.name? ++
          (rest.filterMap FilterCall.arg).filterMap Operand.name? := by
      rw [← List.filterMap_append, List.filterMap_cons]
      cases call.arg <;> rfl
    rw [hnames, Context.agreeOn_append] at h
    exact .bind (FilterCall.simulates_apply r h.1 v) (ih h.2)

/-- An expression has the same value in contexts that agree on its names, with or without a stand-in
for its variable. -/
theorem FilterExpr.simulates_evalOr {e : FilterExpr} (h : AgreeOn e.names c d)
    (fallback : Option Value) :
    Simulates (Twins c d) (e.base.evalOr fallback >>= FilterCall.applyAll r e.filters)
      (e.base.evalOr fallback >>= FilterCall.applyAll r e.filters) := by
  refine .bind ?_ (FilterCall.simulates_applyAll r (h.mono ?_))
  · rcases hbase : e.base with ⟨w | p, pos⟩
    · exact .pure w
    · refine .resolveOr_twins (h p.head (List.mem_filterMap.mpr ⟨e.base, List.mem_cons_self, ?_⟩)) _
      rw [hbase]
      rfl
  · intro x hx
    obtain ⟨y, hy, hyx⟩ := List.mem_filterMap.mp hx
    exact List.mem_filterMap.mpr ⟨y, List.mem_cons_of_mem _ hy, hyx⟩

theorem FilterExpr.simulates_eval {e : FilterExpr} (h : AgreeOn e.names c d) :
    Simulates (Twins c d) (e.eval r) (e.eval r) :=
  FilterExpr.simulates_evalOr r h none

theorem CompileOptions.simulates_evalOutput_twins (co : CompileOptions) {e : FilterExpr}
    (h : AgreeOn e.names c d) :
    Simulates (Twins c d) (co.evalOutput r e) (co.evalOutput r e) := by
  rw [CompileOptions.evalOutput]
  split
  · exact FilterExpr.simulates_evalOr r h e.standIn?
  · exact FilterExpr.simulates_eval r h

variable {ev : FilterExpr → RenderM Value} (o : Options)

mutual

theorem Node.simulates_renderWith
    (hev : ∀ e c d, AgreeOn e.names c d → Simulates (Twins c d) (ev e) (ev e)) (n : Node)
    {c d : Context} (h : AgreeOn n.freeNames c d) :
    Simulates (Twins c d) (n.renderWith ev r o) (n.renderWith ev r o) := by
  match n with
  | .comment pos =>
    rw [Node.renderWith]
    exact .pure ()
  | .text content pos =>
    rw [Node.renderWith]
    exact .evaluation_twins (.append_twins content) o _
  | .output expr pos =>
    rw [Node.freeNames] at h
    rw [Node.renderWith]
    exact .evaluation_twins (.bind (hev expr c d h) fun v => .append_twins _) o _
  | .conditional branches pos =>
    rw [Node.freeNames] at h
    rw [Node.renderWith]
    exact .evaluation_twins (Branches.simulates_renderWith hev branches h) o _
  | .loop binding iterable body empty pos =>
    rw [Node.freeNames, Context.agreeOn_append, Context.agreeOn_append] at h
    obtain ⟨hiterable, hbody, hempty⟩ := h
    rw [Node.renderWith]
    -- Of these three, only the body is in the scope of what the loop binds.
    refine .evaluation_twins (.bind (.bind (FilterExpr.simulates_eval r hiterable) fun v =>
      .located _ ?_) fun items => ?_) o _
    · exact .twins_of_frame fun _ _ => by rw [RenderM.itemsOf]; cases v.items? <;> rfl
    · cases items with
      | nil => exact Node.simulates_renderOptWith hev empty hempty
      | cons item rest =>
        exact .forEach_twins hbody (fun _ _ => Node.simulates_renderAllWith hev body) o _
  | .filtered call body pos =>
    rw [Node.freeNames, Context.agreeOn_append] at h
    rw [Node.renderWith]
    refine .evaluation_twins (.bind (.captured_twins (Node.simulates_renderAllWith hev body h.1))
      fun inner => ?_) o _
    exact .bind (FilterCall.simulates_apply r h.2 _) fun v => .append_twins _

/-- **Renderings do the same in contexts that agree on the free names.** -/
theorem Node.simulates_renderAllWith
    (hev : ∀ e c d, AgreeOn e.names c d → Simulates (Twins c d) (ev e) (ev e))
    (ns : List Node) {c d : Context} (h : AgreeOn (Node.freeNamesAll ns) c d) :
    Simulates (Twins c d) (Node.renderAllWith ev r o ns) (Node.renderAllWith ev r o ns) := by
  match ns with
  | [] =>
    rw [Node.renderAllWith]
    exact .pure ()
  | n :: rest =>
    rw [Node.freeNamesAll, Context.agreeOn_append] at h
    rw [Node.renderAllWith]
    refine .bind (Node.simulates_renderWith hev n h.1) fun _ => ?_
    exact Node.simulates_renderAllWith hev rest h.2

theorem Node.simulates_renderOptWith
    (hev : ∀ e c d, AgreeOn e.names c d → Simulates (Twins c d) (ev e) (ev e))
    (ns : Option (List Node)) {c d : Context} (h : AgreeOn (Node.freeNamesOpt ns) c d) :
    Simulates (Twins c d) (Node.renderOptWith ev r o ns) (Node.renderOptWith ev r o ns) := by
  match ns with
  | none =>
    rw [Node.renderOptWith]
    exact .pure ()
  | some body =>
    rw [Node.freeNamesOpt] at h
    rw [Node.renderOptWith]
    exact Node.simulates_renderAllWith hev body h

theorem Branches.simulates_renderWith
    (hev : ∀ e c d, AgreeOn e.names c d → Simulates (Twins c d) (ev e) (ev e))
    (b : Branches) {c d : Context} (h : AgreeOn b.freeNames c d) :
    Simulates (Twins c d) (b.renderWith ev r o) (b.renderWith ev r o) := by
  match b with
  | .none =>
    rw [Branches.renderWith]
    exact .pure ()
  | .otherwise body =>
    rw [Branches.freeNames] at h
    rw [Branches.renderWith]
    exact Node.simulates_renderAllWith hev body h
  | .when test body rest =>
    rw [Branches.freeNames, Context.agreeOn_append, Context.agreeOn_append] at h
    obtain ⟨htest, hbody, hrest⟩ := h
    rw [Branches.renderWith]
    refine .bind (.bind (FilterExpr.simulates_eval r htest) fun v => .pure _) fun holds => ?_
    cases holds with
    | true => exact Node.simulates_renderAllWith hev body hbody
    | false => exact Branches.simulates_renderWith hev rest hrest

end

end Renderings

/-- What twins do alike is the same outcome, with the context of either one. -/
theorem RenderM.Simulates.apply_twin {x : RenderM Unit} {s : Run} {d : Context}
    (h : Simulates (Twins s.context d) x x) :
    x { s with context := d } = ((x s).1, { (x s).2 with context := d }) := by
  obtain ⟨hres, -, hrun⟩ := h s { s with context := d } ⟨rfl, rfl⟩
  exact Prod.ext hres.symm hrun

/-- **A rendering depends on the free variables of the template only.** Where two contexts agree on
them, a run that begins in the one and a run that begins in the other come to the same: the same
result or error, the same output, counts and calls. Each ends with the context that it began with.
This holds of trees, and of programs whose template has no two variables with the same key. -/
theorem render_execute_of_agreeOn_freeNames {t : Template} {s : Run} {d : Context}
    (h : ∀ x ∈ t.freeNames, s.context.get? x = d.get? x) (r : Registry) (o : Options) :
    t.render r o { s with context := d } =
        ((t.render r o s).1, { (t.render r o s).2 with context := d }) ∧
      ∀ c name p, t.KeysDistinct → t.compile r c name = .ok p →
        p.execute o { s with context := d } =
          ((p.execute o s).1, { (p.execute o s).2 with context := d }) := by
  constructor
  · rw [Template.render, ← Node.renderAllWith_eval]
    apply RenderM.Simulates.apply_twin
    exact Node.simulates_renderAllWith r o (fun _ _ _ => FilterExpr.simulates_eval r) t h
  · intro c name p hkeys hcompile
    -- Down to the calls, the program does what the tree does with the program's own outputs.
    have hexecute : p.execute o = Node.renderAllWith (c.evalOutput r) r o t :=
      (Template.simulates_execute hkeys hcompile (fun _ => rfl) (fun _ _ => .of_eq rfl) o
        fun _ => trivial).eq
    rw [hexecute]
    apply RenderM.Simulates.apply_twin
    exact Node.simulates_renderAllWith r o (fun _ _ _ => c.simulates_evalOutput_twins r) t h

/-- A loop in a loop with the same variable, and `forloop` inside and behind them: only what is run
through and the last `forloop` are free. The contexts have one frame and two, and differ on the
variable of the loops. -/
theorem render_execute_of_agreeOn_freeNames_shadowed :
    let name (x : String) : FilterExpr := ⟨⟨.variable ⟨x, []⟩, none⟩, []⟩
    let inner : Node :=
      .loop "x" (name "x") [.output (name "x") none, .output (name "forloop") none] none none
    let t : Template := [.loop "x" (name "v") [inner] none none, .output (name "forloop") none]
    let v : Value := .array [.array [.string "a"], .array []]
    let s : Run := { context := (Context.empty.set "v" v).set "forloop" (.string "b") }
    let d : Context := (((Context.empty.set "x" v).set "v" .nothing).push.set "v" v).set "forloop"
      (.string "b")
    t.freeNames = ["v", "forloop"] ∧ t.KeysDistinct ∧
      (∀ x ∈ t.freeNames, s.context.get? x = d.get? x) ∧
      s.context.get? "x" = none ∧ d.get? "x" = some v ∧
      ∃ p, t.compile .standard {} none = .ok p ∧
        t.render .standard {} { s with context := d } =
          ((t.render .standard {} s).1, { (t.render .standard {} s).2 with context := d }) ∧
        p.execute {} { s with context := d } =
          ((p.execute {} s).1, { (p.execute {} s).2 with context := d }) := by
  intro name inner t v s d
  have hfree : t.freeNames = ["v", "forloop"] := by decide
  have hkeys : t.KeysDistinct := by decide
  have hagree : ∀ x ∈ t.freeNames, s.context.get? x = d.get? x := by
    rw [hfree]
    simp [s, d]
  obtain ⟨htree, hprogram⟩ := render_execute_of_agreeOn_freeNames hagree .standard {}
  exact ⟨hfree, hkeys, hagree, rfl, by simp [d], _, rfl, htree, hprogram {} none _ hkeys rfl⟩

end Stencil
