import Stencil.Program.Execute
import Stencil.Render.Tree

/-!
# Renderings with two sets of options

Two renderings of one template, or of one program, that differ in their options take the same steps
but for those that ask the options: evaluations and turns are counted against limits, and values are
written escaped or not. So a relation between steps holds between the two renderings as a whole if
it is kept by the ways in which steps are put together, if it holds between the single steps, and if
it holds between what the two write out.

## Main definitions

* `Emission`: what writes output: a text, a value, or a block that is sent through a filter
* `Template.emissions`, `Program.emissions`: what writes output in a template and in a program
* `Template.texts`, `Program.texts`: the texts among them; `Template.blocks`: the calls of blocks
* `RenderM.Composes R`: the relation is kept by putting steps together
* `RenderM.Congruence o o' R`: it is kept by loops, too, and holds between the steps that write
  nothing, with the options `o` on one side and `o'` on the other
* `Emission.Related`: the relation holds between the two ways of writing an emission

## Main results

* `RenderM.Composes.forEach`: loops are related if their bodies are
* `Node.related_renderAll`: a congruence that relates the emissions of nodes relates their rendering
* `Stmt.related_execAll`: a congruence that relates the emissions of statements relates their effect
-/

namespace Stencil

/-! ## What writes output -/

/-- What writes output: a text that is copied, a value, or a block that is sent through a filter. -/
inductive Emission (ε β : Type) where
  | text (content : String)
  | value (e : ε)
  | block (call : β)

namespace Emission

variable {ε β : Type}

/-- The text that is copied. -/
def text? : Emission ε β → Option String
  | .text content => some content
  | _ => none

/-- The call that a block is sent through. -/
def block? : Emission ε β → Option β
  | .block call => some call
  | _ => none

theorem mem_filterMap_text? {ls : List (Emission ε β)} {content : String} :
    content ∈ ls.filterMap text? ↔ .text content ∈ ls := by
  rw [List.mem_filterMap]
  constructor
  · rintro ⟨_ | _ | _, hmem, heq⟩
    · rwa [← Option.some.inj heq]
    · cases heq
    · cases heq
  · exact fun hmem => ⟨_, hmem, rfl⟩

theorem mem_filterMap_block? {ls : List (Emission ε β)} {call : β} :
    call ∈ ls.filterMap block? ↔ .block call ∈ ls := by
  rw [List.mem_filterMap]
  constructor
  · rintro ⟨_ | _ | _, hmem, heq⟩
    · cases heq
    · cases heq
    · rwa [← Option.some.inj heq]
  · exact fun hmem => ⟨_, hmem, rfl⟩

end Emission

mutual

/-- What writes output in a node. -/
def Node.emissions : Node → List (Emission FilterExpr FilterCall)
  | .text content _ => [.text content]
  | .comment _ => []
  | .output expr _ => [.value expr]
  | .conditional branches _ => Branches.emissions branches
  | .loop _ _ body empty _ => Node.emissionsAll body ++ Node.emissionsOpt empty
  | .filtered call body _ => Node.emissionsAll body ++ [.block call]

/-- What writes output in nodes. -/
def Node.emissionsAll : List Node → List (Emission FilterExpr FilterCall)
  | [] => []
  | n :: rest => Node.emissions n ++ Node.emissionsAll rest

/-- What writes output in a body that may be lacking. -/
def Node.emissionsOpt : Option (List Node) → List (Emission FilterExpr FilterCall)
  | none => []
  | some body => Node.emissionsAll body

/-- What writes output in the branches of a choice. -/
def Branches.emissions : Branches → List (Emission FilterExpr FilterCall)
  | .none => []
  | .otherwise body => Node.emissionsAll body
  | .when _ body rest => Node.emissionsAll body ++ Branches.emissions rest

end

namespace Template

/-- What writes output in a template. -/
def emissions (t : Template) : List (Emission FilterExpr FilterCall) :=
  Node.emissionsAll t

/-- The texts of a template. -/
def texts (t : Template) : List String :=
  t.emissions.filterMap Emission.text?

/-- The calls that the blocks of a template are sent through. -/
def blocks (t : Template) : List FilterCall :=
  t.emissions.filterMap Emission.block?

end Template

mutual

/-- What writes output in a statement. No statement is a block. -/
def Stmt.emissions : Stmt → List (Emission Expr Empty)
  | .emit e _ => [.value e]
  | .text content _ => [.text content]
  | .conditional arms _ => Arms.emissions arms
  | .loop _ _ body empty _ => Stmt.emissionsAll body ++ Stmt.emissionsAll empty

/-- What writes output in statements. -/
def Stmt.emissionsAll : List Stmt → List (Emission Expr Empty)
  | [] => []
  | s :: rest => Stmt.emissions s ++ Stmt.emissionsAll rest

/-- What writes output in the bodies of a choice. -/
def Arms.emissions : Arms → List (Emission Expr Empty)
  | .otherwise body => Stmt.emissionsAll body
  | .arm _ body rest => Stmt.emissionsAll body ++ Arms.emissions rest

end

/-- What writes output in a program. -/
def Program.emissions (p : Program) : List (Emission Expr Empty) :=
  Stmt.emissionsAll p.body

/-- The texts of a program. -/
def Program.texts (p : Program) : List String :=
  p.emissions.filterMap Emission.text?

/-! ## Relations that are kept -/

/-- The relation is kept by the ways in which steps are put together. -/
structure RenderM.Composes (R : {α : Type} → RenderM α → RenderM α → Prop) : Prop where
  pure {α : Type} (a : α) : R (Pure.pure a) (Pure.pure a)
  ofExcept {α : Type} (result : Except RenderError α) : R (ofExcept result) (ofExcept result)
  bind {α β : Type} {x y : RenderM α} {f g : α → RenderM β} (hxy : R x y)
    (hfg : ∀ a, R (f a) (g a)) : R (x >>= f) (y >>= g)
  located {α : Type} {x y : RenderM α} (pos : Position) (hxy : R x y) :
    R (located pos x) (located pos y)

/-- Loops are related if their bodies are, for a relation that is kept by frames and holds between
the steps in which a turn begins. -/
theorem RenderM.Composes.forEach {R : {α : Type} → RenderM α → RenderM α → Prop}
    (hR : Composes R) (o o' : Options) (hturn : R (turn o) (turn o'))
    (hbindItem : ∀ binding item index count,
      R (modify fun s => { s with context := s.context.bindItem binding item index count })
        (modify fun s => { s with context := s.context.bindItem binding item index count }))
    (hinFrame : ∀ x y : RenderM Unit, R x y → R (inFrame x) (inFrame y))
    (binding : String) (items : List Value) {x y : RenderM Unit} (hxy : R x y) :
    R (RenderM.forEach o binding items x) (RenderM.forEach o' binding items y) := by
  -- The turns are related from whatever index they begin with.
  have hturns (index : Nat) (rest : List Value) :
      R (turns o binding x items.length index rest)
        (turns o' binding y items.length index rest) := by
    induction rest generalizing index with
    | nil => exact hR.pure ()
    | cons item rest ih =>
      refine hR.bind hturn fun _ => hR.bind (hbindItem binding item _ _) fun _ => ?_
      exact hR.bind hxy fun _ => ih (index + 1)
  exact hinFrame _ _ (hturns 0 items)

/-- The relation is kept by the ways in which steps are put together, by loops, and it holds between
the other steps of renderings with the options `o` and `o'`, as far as these write nothing. -/
structure RenderM.Congruence (o o' : Options) (R : {α : Type} → RenderM α → RenderM α → Prop) : Prop
    extends RenderM.Composes R where
  resolve (p : Path) : R (resolve p) (resolve p)
  resolveOr (p : Path) (fallback : Option Value) : R (resolveOr p fallback) (resolveOr p fallback)
  call (f : Filter) (v : Value) (arg : Option Value) : R (f.call v arg) (f.call v arg)
  tick : R (tick o) (tick o')
  forEach (binding : String) (items : List Value) {x y : RenderM Unit} (hxy : R x y) :
    R (forEach o binding items x) (forEach o' binding items y)

/-- The output of a step, sent through the filter of a call. -/
def FilterCall.filterOutput (r : Registry) (call : FilterCall) (x : RenderM Unit) :
    RenderM Unit := do
  let inner ← RenderM.captured x
  let v ← call.apply r (.string inner)
  RenderM.append v.text

/-- The relation holds between the two ways of writing an emission, where values are evaluated by
`ev` and blocks are made by `wrap`. -/
def Emission.Related {ε β : Type} (R : {α : Type} → RenderM α → RenderM α → Prop) (o o' : Options)
    (ev : ε → RenderM Value) (wrap : β → RenderM Unit → RenderM Unit) : Emission ε β → Prop
  | .text content => R (RenderM.append content) (RenderM.append content)
  | .value e => R (ev e >>= RenderM.emit o) (ev e >>= RenderM.emit o')
  | .block call => ∀ x y, R x y → R (wrap call x) (wrap call y)

open RenderM (Congruence)

section Related

variable {o o' : Options} {R : {α : Type} → RenderM α → RenderM α → Prop}
  (hR : Congruence o o' R)
include hR

namespace RenderM.Congruence

theorem itemsOf (v : Value) : R (RenderM.itemsOf v) (RenderM.itemsOf v) := by
  rw [RenderM.itemsOf]
  cases v.items? with
  | none => exact hR.ofExcept _
  | some items => exact hR.pure items

theorem evaluation {x y : RenderM Unit} (pos : Position) (hxy : R x y) :
    R (RenderM.evaluation o pos x) (RenderM.evaluation o' pos y) :=
  hR.located pos (hR.bind hR.tick fun _ => hxy)

end RenderM.Congruence

/-! ## Trees -/

variable (r : Registry)

theorem Operand.related_eval (x : Operand) : R x.eval x.eval := by
  rcases x with ⟨v | p, pos⟩
  · exact hR.pure v
  · exact hR.resolveOr p none

theorem FilterCall.related_evalArg (call : FilterCall) : R call.evalArg call.evalArg := by
  -- Only a variable has to be looked up, and it has to exist.
  rcases call with ⟨name, _ | ⟨v | p, pos⟩, callPos⟩
  · exact hR.pure none
  · exact hR.pure (some v)
  · exact hR.bind (hR.located _ (hR.resolve p)) fun w => hR.pure (some w)

theorem FilterCall.related_apply (call : FilterCall) (v : Value) :
    R (call.apply r v) (call.apply r v) := by
  refine hR.bind (call.related_evalArg hR) fun arg => hR.located _ ?_
  rw [Registry.call]
  cases r.select call.name arg.isSome with
  | ok f => exact hR.call f v arg
  | error e => exact hR.ofExcept _

theorem FilterCall.related_applyAll (calls : List FilterCall) (v : Value) :
    R (FilterCall.applyAll r calls v) (FilterCall.applyAll r calls v) := by
  induction calls generalizing v with
  | nil => exact hR.pure v
  | cons call rest ih => exact hR.bind (call.related_apply hR r v) ih

theorem FilterExpr.related_eval (e : FilterExpr) : R (e.eval r) (e.eval r) :=
  hR.bind (e.base.related_eval hR) (FilterCall.related_applyAll hR r e.filters)

theorem Condition.related_eval (c : Condition) : R (c.eval r) (c.eval r) :=
  hR.bind (c.test.related_eval hR r) fun v => hR.pure (v.isTruthy != c.negated)

theorem FilterExpr.related_evalItems (e : FilterExpr) : R (e.evalItems r) (e.evalItems r) :=
  hR.bind (e.related_eval hR r) fun v => hR.located _ (hR.itemsOf v)

mutual

theorem Node.related_render (n : Node)
    (hn : ∀ l ∈ n.emissions, l.Related R o o' (FilterExpr.eval r) (FilterCall.filterOutput r)) :
    R (n.render r o) (n.render r o') := by
  match n with
  | .comment pos =>
    rw [Node.render, Node.render]
    exact hR.pure ()
  | .text content pos =>
    rw [Node.emissions] at hn
    rw [Node.render, Node.render]
    exact hR.evaluation _ (hn _ List.mem_cons_self)
  | .output expr pos =>
    rw [Node.emissions] at hn
    rw [Node.render, Node.render]
    exact hR.evaluation _ (hn _ List.mem_cons_self)
  | .conditional branches pos =>
    rw [Node.emissions] at hn
    rw [Node.render, Node.render]
    exact hR.evaluation _ (Branches.related_render branches hn)
  | .loop binding iterable body empty pos =>
    rw [Node.emissions] at hn
    rw [Node.render, Node.render]
    refine hR.evaluation _ (hR.bind (iterable.related_evalItems hR r) fun items => ?_)
    cases items with
    | nil => exact Node.related_renderOpt empty fun l hl => hn l (by simp [hl])
    | cons item rest =>
      exact hR.forEach binding (item :: rest)
        (Node.related_renderAll body fun l hl => hn l (by simp [hl]))
  | .filtered call body pos =>
    rw [Node.emissions] at hn
    rw [Node.render, Node.render]
    -- What the relation says of the block is applied to the body.
    have hbody := Node.related_renderAll body fun l hl => hn l (by simp [hl])
    exact hR.evaluation _ (hn (.block call) (by simp) _ _ hbody)

/-- **A congruence that relates the emissions of nodes relates their renderings.** -/
theorem Node.related_renderAll (ns : List Node)
    (hns : ∀ l ∈ Node.emissionsAll ns,
      l.Related R o o' (FilterExpr.eval r) (FilterCall.filterOutput r)) :
    R (Node.renderAll r o ns) (Node.renderAll r o' ns) := by
  match ns with
  | [] =>
    rw [Node.renderAll, Node.renderAll]
    exact hR.pure ()
  | n :: rest =>
    rw [Node.emissionsAll] at hns
    rw [Node.renderAll, Node.renderAll]
    exact hR.bind (Node.related_render n fun l hl => hns l (by simp [hl])) fun _ =>
      Node.related_renderAll rest fun l hl => hns l (by simp [hl])

theorem Node.related_renderOpt (ns : Option (List Node))
    (hns : ∀ l ∈ Node.emissionsOpt ns,
      l.Related R o o' (FilterExpr.eval r) (FilterCall.filterOutput r)) :
    R (Node.renderOpt r o ns) (Node.renderOpt r o' ns) := by
  match ns with
  | none =>
    rw [Node.renderOpt, Node.renderOpt]
    exact hR.pure ()
  | some body =>
    rw [Node.emissionsOpt] at hns
    rw [Node.renderOpt, Node.renderOpt]
    exact Node.related_renderAll body hns

theorem Branches.related_render (b : Branches)
    (hb : ∀ l ∈ b.emissions, l.Related R o o' (FilterExpr.eval r) (FilterCall.filterOutput r)) :
    R (b.render r o) (b.render r o') := by
  match b with
  | .none =>
    rw [Branches.render, Branches.render]
    exact hR.pure ()
  | .otherwise body =>
    rw [Branches.emissions] at hb
    rw [Branches.render, Branches.render]
    exact Node.related_renderAll body hb
  | .when test body rest =>
    rw [Branches.emissions] at hb
    rw [Branches.render, Branches.render]
    refine hR.bind (test.related_eval hR r) fun holds => ?_
    cases holds with
    | false => exact Branches.related_render rest fun l hl => hb l (by simp [hl])
    | true => exact Node.related_renderAll body fun l hl => hb l (by simp [hl])

end

/-! ## Programs -/

variable (t : Tables)

mutual

theorem Expr.related_eval (e : Expr) : R (e.eval t) (e.eval t) := by
  match e with
  | .literal v pos =>
    rw [Expr.eval]
    exact hR.pure v
  | .resolve h pos =>
    rw [Expr.eval, Tables.evalVariable]
    refine hR.located pos ?_
    cases t.paths.get? h with
    | none => exact hR.ofExcept _
    | some p => exact hR.resolve p
  | .tryResolve h fallback pos =>
    rw [Expr.eval]
    refine hR.bind (Expr.related_evalOpt fallback) fun v => ?_
    rw [Tables.evalVariableOr]
    cases t.paths.get? h with
    | none => exact hR.pure _
    | some p => exact hR.resolveOr p v
  | .filter h input arg pos =>
    rw [Expr.eval]
    refine hR.bind (Expr.related_eval input) fun v => hR.bind (Expr.related_evalOpt arg) fun a => ?_
    refine hR.located pos ?_
    rw [Tables.callFilter]
    cases t.filter? h with
    | none => exact hR.ofExcept _
    | some f => exact hR.call f v a
  | .not e pos =>
    rw [Expr.eval]
    exact hR.bind (Expr.related_eval e) fun v => hR.pure _

theorem Expr.related_evalOpt (e : Option Expr) : R (Expr.evalOpt t e) (Expr.evalOpt t e) := by
  match e with
  | none =>
    rw [Expr.evalOpt]
    exact hR.pure none
  | some e =>
    rw [Expr.evalOpt]
    exact hR.bind (Expr.related_eval e) fun v => hR.pure (some v)

end

theorem Expr.related_evalItems (e : Expr) : R (e.evalItems t) (e.evalItems t) :=
  hR.bind (e.related_eval hR t) fun v => hR.located _ (hR.itemsOf v)

mutual

theorem Stmt.related_exec (s : Stmt)
    (hs : ∀ l ∈ s.emissions, l.Related R o o' (Expr.eval t) Empty.elim) :
    R (s.exec t o) (s.exec t o') := by
  match s with
  | .text content pos =>
    rw [Stmt.emissions] at hs
    rw [Stmt.exec, Stmt.exec]
    exact hR.evaluation pos (hs _ List.mem_cons_self)
  | .emit e pos =>
    rw [Stmt.emissions] at hs
    rw [Stmt.exec, Stmt.exec]
    exact hR.evaluation pos (hs _ List.mem_cons_self)
  | .conditional arms pos =>
    rw [Stmt.emissions] at hs
    rw [Stmt.exec, Stmt.exec]
    exact hR.evaluation pos (Arms.related_exec arms hs)
  | .loop binding iterable body empty pos =>
    rw [Stmt.emissions] at hs
    rw [Stmt.exec, Stmt.exec]
    refine hR.evaluation pos (hR.bind (iterable.related_evalItems hR t) fun items => ?_)
    cases items with
    | nil => exact Stmt.related_execAll empty fun l hl => hs l (by simp [hl])
    | cons item rest =>
      exact hR.forEach binding (item :: rest)
        (Stmt.related_execAll body fun l hl => hs l (by simp [hl]))

/-- **A congruence that relates the emissions of statements relates their effects.** -/
theorem Stmt.related_execAll (ss : List Stmt)
    (hss : ∀ l ∈ Stmt.emissionsAll ss, l.Related R o o' (Expr.eval t) Empty.elim) :
    R (Stmt.execAll t o ss) (Stmt.execAll t o' ss) := by
  match ss with
  | [] =>
    rw [Stmt.execAll, Stmt.execAll]
    exact hR.pure ()
  | s :: rest =>
    rw [Stmt.emissionsAll] at hss
    rw [Stmt.execAll, Stmt.execAll]
    exact hR.bind (Stmt.related_exec s fun l hl => hss l (by simp [hl])) fun _ =>
      Stmt.related_execAll rest fun l hl => hss l (by simp [hl])

theorem Arms.related_exec (arms : Arms)
    (harms : ∀ l ∈ arms.emissions, l.Related R o o' (Expr.eval t) Empty.elim) :
    R (arms.exec t o) (arms.exec t o') := by
  match arms with
  | .otherwise body =>
    rw [Arms.emissions] at harms
    rw [Arms.exec, Arms.exec]
    exact Stmt.related_execAll body harms
  | .arm test body rest =>
    rw [Arms.emissions] at harms
    rw [Arms.exec, Arms.exec]
    refine hR.bind (test.related_eval hR t) fun v => ?_
    cases v.isTruthy with
    | false => exact Arms.related_exec rest fun l hl => harms l (by simp [hl])
    | true => exact Stmt.related_execAll body fun l hl => harms l (by simp [hl])

end

end Related

end Stencil
