import Stencil.Proofs.Render.Congruence

/-!
# Rendering leaves the variables alone

A loop binds its variables in a frame that it pushes, and takes that frame away again, whether its
turns succeed or one of them fails. So every step of a rendering ends with the frames that it began
with. Within a loop the invariant is weaker: there is one more frame on top, and what lies below it
is untouched.

## Main definitions

* `RenderM.Preserves P x`: where `P` holds of a run, it holds of the run that `x` ends in
* `RenderM.KeepsContext x`: `x` ends with the variables that it began with
* `Context.Above d c`: the frames of `c`, and one more on top of them

## Main results

* `RenderM.Preserves.turns`, `RenderM.KeepsContext.forEach`: the turns of a loop, and the loop
* `RenderM.KeepsContext.congruence`: steps that keep the variables, put together
* `Node.keepsContext_renderAll`, `Stmt.keepsContext_execAll`: the two ways of rendering
* `context_render_execute`: frames are the same before and behind every rendering
-/

namespace Stencil

variable {α β : Type}

/-! ## What a step preserves -/

/-- Where `P` holds of a run, it holds of the run that the step ends in, also if the step fails. -/
def RenderM.Preserves (P : Run → Prop) (x : RenderM α) : Prop :=
  ∀ s, P s → P (x s).2

namespace RenderM.Preserves

variable {P : Run → Prop}

theorem pure (a : α) : Preserves P (Pure.pure a) :=
  fun _ h => h

theorem ofExcept (r : Except RenderError α) : Preserves P (RenderM.ofExcept r) :=
  fun _ h => h

theorem bind {x : RenderM α} {f : α → RenderM β} (hx : Preserves P x)
    (hf : ∀ a, Preserves P (f a)) : Preserves P (x >>= f) := by
  intro s h
  have ht := hx s h
  cases hs : x s with
  | mk res t =>
    rw [hs] at ht
    cases res with
    | ok a =>
      rw [bind_apply_ok x f s hs]
      exact hf a t ht
    | error e =>
      rw [bind_apply_error x f s hs]
      exact ht

theorem located {x : RenderM α} (pos : Position) (hx : Preserves P x) :
    Preserves P (RenderM.located pos x) := by
  intro s h
  rw [located_state]
  exact hx s h

end RenderM.Preserves

/-! ## Frames above a context -/

/-- `d` has the frames of `c`, and one more on top of them. -/
def Context.Above (d c : Context) : Prop :=
  ∃ frame, d = { c with inner := frame :: c.inner }

namespace Context

variable {c d : Context}

theorem above_push (c : Context) : c.push.Above c :=
  ⟨.empty, rfl⟩

/-- A variable is set in the innermost frame, so the frames below stay. -/
theorem Above.set (h : d.Above c) (name : String) (v : Value) : (d.set name v).Above c := by
  obtain ⟨frame, rfl⟩ := h
  exact ⟨frame.insert name v, rfl⟩

theorem Above.bindItem (h : d.Above c) (binding : String) (item : Value) (index count : UInt64) :
    (d.bindItem binding item index count).Above c :=
  (h.set _ _).set _ _

theorem Above.pop_eq (h : d.Above c) : d.pop = c := by
  obtain ⟨frame, rfl⟩ := h
  rfl

end Context

/-! ## Steps that keep the variables -/

/-- The step ends with the variables that it began with, also if it fails. -/
def RenderM.KeepsContext (x : RenderM α) : Prop :=
  ∀ c, RenderM.Preserves (·.context = c) x

namespace RenderM

theorem KeepsContext.of_eq {x : RenderM α} (h : ∀ s, (x s).2.context = s.context) :
    KeepsContext x :=
  fun _ s hs => (h s).trans hs

theorem KeepsContext.context_eq {x : RenderM α} (hx : KeepsContext x) (s : Run) :
    (x s).2.context = s.context :=
  hx s.context s rfl

/-- What is said of the variables only is preserved by a step that keeps them. -/
theorem KeepsContext.preserves {x : RenderM α} (hx : KeepsContext x) (P : Context → Prop) :
    Preserves (fun s => P s.context) x := by
  intro s h
  rw [hx.context_eq s]
  exact h

/-- **The turns of a loop** stay above the context that the loop was entered in: each binds its
variables in the frame of the loop, and its body keeps all frames. -/
theorem Preserves.turns {body : RenderM Unit} (hbody : KeepsContext body) (o : Options)
    (binding : String) (count : Nat) (c : Context) (items : List Value) (index : Nat) :
    Preserves (fun s => s.context.Above c) (RenderM.turns o binding body count index items) := by
  induction items generalizing index with
  | nil => exact .pure ()
  | cons item rest ih =>
    -- A turn that is one too many fails before anything is bound.
    refine .bind (fun _ h => h) fun _ => .bind ?_ fun _ => ?_
    · exact fun s h => h.bindItem binding item (.ofNat index) (.ofNat count)
    · exact .bind (hbody.preserves (·.Above c)) fun _ => ih (index + 1)

namespace KeepsContext

theorem pure (a : α) : KeepsContext (Pure.pure a : RenderM α) :=
  fun _ => .pure a

theorem ofExcept (r : Except RenderError α) : KeepsContext (RenderM.ofExcept r) :=
  fun _ => .ofExcept r

theorem bind {x : RenderM α} {f : α → RenderM β} (hx : KeepsContext x)
    (hf : ∀ a, KeepsContext (f a)) : KeepsContext (x >>= f) :=
  fun c => .bind (hx c) fun a => hf a c

theorem located {x : RenderM α} (pos : Position) (hx : KeepsContext x) :
    KeepsContext (RenderM.located pos x) :=
  fun c => .located pos (hx c)

theorem resolve (p : Path) : KeepsContext (RenderM.resolve p) := by
  refine of_eq fun s => ?_
  rw [RenderM.resolve]
  cases s.context.find? p <;> rfl

theorem resolveOr (p : Path) (fallback : Option Value) :
    KeepsContext (RenderM.resolveOr p fallback) :=
  of_eq fun _ => rfl

theorem append (text : String) : KeepsContext (RenderM.append text) :=
  of_eq fun _ => rfl

theorem captured {x : RenderM Unit} (hx : KeepsContext x) : KeepsContext (RenderM.captured x) := by
  refine of_eq fun s => ?_
  have h := hx.context_eq { s with output := "" }
  rw [RenderM.captured_apply]
  split <;> simp_all

/-- A frame that is pushed for a step is popped again, if the step leaves the frames below alone. -/
theorem inFrame {x : RenderM α} (hx : ∀ c, Preserves (fun s => s.context.Above c) x) :
    KeepsContext (RenderM.inFrame x) :=
  of_eq fun s => (hx s.context _ (Context.above_push s.context)).pop_eq

/-- **A loop** keeps the variables if its body does, however many turns it takes. -/
theorem forEach {body : RenderM Unit} (hbody : KeepsContext body) (o : Options) (binding : String)
    (items : List Value) : KeepsContext (RenderM.forEach o binding items body) :=
  inFrame fun c => .turns hbody o binding items.length c items 0

/-- **Keeping the variables is kept by putting steps together.** -/
theorem congruence (o : Options) : Congruence o o fun x _ => KeepsContext x where
  pure := pure
  ofExcept := ofExcept
  bind := bind
  located := located
  resolve := resolve
  resolveOr := resolveOr
  call _ _ _ := of_eq fun _ => rfl
  tick := of_eq fun _ => rfl
  forEach binding items _ _ hx := hx.forEach o binding items

end KeepsContext

end RenderM

open RenderM (KeepsContext)

/-! ## Renderings -/

theorem Node.keepsContext_renderAll (r : Registry) (o : Options) (ns : List Node) :
    KeepsContext (Node.renderAll r o ns) := by
  have hcongruence := KeepsContext.congruence o
  refine Node.related_renderAll hcongruence r ns ?_
  rintro (content | e | call) -
  · exact .append content
  · exact .bind (e.related_eval hcongruence r) fun v => .append _
  · intro x _ hx
    refine .bind (.captured hx) fun inner => ?_
    exact .bind (call.related_apply hcongruence r (.string inner)) fun v => .append _

theorem Stmt.keepsContext_execAll (t : Tables) (o : Options) (ss : List Stmt) :
    KeepsContext (Stmt.execAll t o ss) := by
  have hcongruence := KeepsContext.congruence o
  refine Stmt.related_execAll hcongruence t ss ?_
  rintro (content | e | call) -
  · exact .append content
  · exact .bind (e.related_eval hcongruence t) fun v => .append _
  · exact call.elim

/-- **A rendering leaves the variables exactly as it found them**: from every run and with all
options, whatever the outcome, the frames behind it are the frames before it. This holds of every
template that is rendered as a tree, and of every program that is executed. -/
theorem context_render_execute (r : Registry) (o : Options) (s : Run) (t : Template)
    (p : Program) :
    (t.render r o s).2.context = s.context ∧ (p.execute o s).2.context = s.context :=
  ⟨(Node.keepsContext_renderAll r o t).context_eq s,
    (Stmt.keepsContext_execAll p.tables o p.body).context_eq s⟩

end Stencil
