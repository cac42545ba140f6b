import Mathlib.Data.List.Forall2
import Stencil.Proofs.Render.Congruence

/-!
# Steps that simulate each other

Two steps of a rendering simulate each other along a relation between runs if, started in related
runs, they give the same result and end in related runs, also where they fail. Simulation is kept by
every way of putting steps together, so that two renderers are compared step by step.

The relation that the comparison of the two renderers needs is `Run.Matches heed C`: the runs are in
the same state, and the filters at work were called alike, as far as `C` can tell. Where nobody
heeds a call to stop, the runs may differ in whether there was one.

## Main definitions

* `RenderM.Simulates R x y`: `x` and `y` do the same in runs related by `R`
* `Reply.Matches heed a b`: the same result, and the same call to stop if that is heeded
* `Run.Matches heed C s t`: the same state, up to what `C` allows in the record of calls

## Main results

* `RenderM.Simulates.bind`, `RenderM.Simulates.located`: sequences and positions
* `RenderM.Simulates.call`: filters whose replies match
* `RenderM.Simulates.congruence`: renderings of a tree, step by step in matching runs
-/

namespace Stencil

variable {α β : Type}

/-- Started in related runs, the steps give the same result and end in related runs. -/
def RenderM.Simulates (R : Run → Run → Prop) (x y : RenderM α) : Prop :=
  ∀ s t, R s t → (x s).1 = (y t).1 ∧ R (x s).2 (y t).2

namespace RenderM.Simulates

/-! ## Any relation -/

section Relation

variable {R : Run → Run → Prop}

theorem pure (a : α) : Simulates R (Pure.pure a) (Pure.pure a) :=
  fun _ _ h => ⟨rfl, h⟩

theorem ofExcept (r : Except RenderError α) :
    Simulates R (RenderM.ofExcept r) (RenderM.ofExcept r) :=
  fun _ _ h => ⟨rfl, h⟩

/-- Sequences of steps that simulate each other do. -/
theorem bind {x y : RenderM α} {f g : α → RenderM β} (hxy : Simulates R x y)
    (hfg : ∀ a, Simulates R (f a) (g a)) : Simulates R (x >>= f) (y >>= g) := by
  intro s t h
  obtain ⟨hres, hrun⟩ := hxy s t h
  cases hx : x s with
  | mk res s' =>
    cases hy : y t with
    | mk res' t' =>
      rw [hx, hy] at hres hrun
      obtain rfl : res = res' := hres
      -- Both go on with the same value, or both stop with the same error.
      cases res with
      | ok a =>
        rw [bind_apply_ok x f s hx, bind_apply_ok y g t hy]
        exact hfg a s' t' hrun
      | error e =>
        rw [bind_apply_error x f s hx, bind_apply_error y g t hy]
        exact ⟨rfl, hrun⟩

/-- The same position may be given to the errors of both steps. -/
theorem located {x y : RenderM α} (pos : Position) (hxy : Simulates R x y) :
    Simulates R (RenderM.located pos x) (RenderM.located pos y) := by
  intro s t h
  obtain ⟨hres, hrun⟩ := hxy s t h
  rw [located_state, located_state]
  refine ⟨?_, hrun⟩
  rw [located_result, located_result, hres]

end Relation

end RenderM.Simulates

/-! ## Matching runs -/

/-- The replies have the same result, and they call for a stop alike if that is heeded. -/
structure Reply.Matches (heed : Prop) (a b : Reply) : Prop where
  result : a.result = b.result
  cancels : heed → a.cancels = b.cancels

theorem Reply.Matches.of_eq {heed : Prop} {a b : Reply} (h : a = b) : a.Matches heed b :=
  ⟨congrArg Reply.result h, fun _ => congrArg Reply.cancels h⟩

/-- The runs are in the same state, with the same call to stop if that is heeded, and their calls
are alike one by one, as far as `C` can tell. -/
structure Run.Matches (heed : Prop) (C : Call → Call → Prop) (s t : Run) : Prop where
  output : s.output = t.output
  evaluations : s.evaluations = t.evaluations
  iterations : s.iterations = t.iterations
  cancelled : heed → s.cancelled = t.cancelled
  context : s.context = t.context
  calls : List.Forall₂ C s.calls t.calls

/-- Whether there was a call to stop makes no difference where it is not heeded. -/
theorem Options.admitsEvaluation_congr {o : Options} {c d : Bool}
    (h : o.cancellable = true → c = d) (count : Nat) :
    o.admitsEvaluation count c = o.admitsEvaluation count d := by
  cases hcancellable : o.cancellable with
  | false => simp only [Options.admitsEvaluation, hcancellable, Bool.false_and]
  | true => rw [h hcancellable]

section Matching

variable {heed : Prop} {C : Call → Call → Prop}

namespace Run.Matches

variable {s t : Run}

theorem refl (hC : ∀ c, C c c) (s : Run) : s.Matches heed C s :=
  ⟨rfl, rfl, rfl, fun _ => rfl, rfl, List.forall₂_same.mpr fun c _ => hC c⟩

/-- A matching run is the run itself with another record of calls, and perhaps another call to
stop. -/
theorem exists_eq (h : s.Matches heed C t) :
    ∃ calls cancelled, t = { s with calls, cancelled } ∧ (heed → s.cancelled = cancelled) ∧
      List.Forall₂ C s.calls calls := by
  refine ⟨t.calls, t.cancelled, ?_, h.cancelled, h.calls⟩
  rw [h.output, h.evaluations, h.iterations, h.context]

end Run.Matches

namespace RenderM.Simulates

/-- A step that has nothing to do with calls and stops simulates itself: it commutes with replacing
the record of the former and the note of the latter. -/
theorem of_frame {x : RenderM α}
    (hx : ∀ s calls cancelled,
      x { s with calls, cancelled } = ((x s).1, { (x s).2 with calls, cancelled })) :
    Simulates (Run.Matches heed C) x x := by
  intro s t h
  -- The second run is the first one with other calls, so `x` is run only once.
  obtain ⟨calls, cancelled, rfl, hcancelled, hcalls⟩ := h.exists_eq
  have hself : (x s).2 = { (x s).2 with calls := s.calls, cancelled := s.cancelled } :=
    congrArg Prod.snd (hx s s.calls s.cancelled)
  rw [hx s calls cancelled, hself]
  exact ⟨rfl, rfl, rfl, rfl, hcancelled, rfl, hcalls⟩

theorem resolve (p : Path) :
    Simulates (Run.Matches heed C) (RenderM.resolve p) (RenderM.resolve p) := by
  refine of_frame fun s calls cancelled => ?_
  simp only [RenderM.resolve]
  cases s.context.find? p <;> rfl

theorem resolveOr (p : Path) (fallback : Option Value) :
    Simulates (Run.Matches heed C) (RenderM.resolveOr p fallback) (RenderM.resolveOr p fallback) :=
  of_frame fun _ _ _ => rfl

theorem append (text : String) :
    Simulates (Run.Matches heed C) (RenderM.append text) (RenderM.append text) :=
  of_frame fun _ _ _ => rfl

theorem emit (o : Options) (v : Value) :
    Simulates (Run.Matches heed C) (RenderM.emit o v) (RenderM.emit o v) :=
  append _

/-- One more evaluation is admitted alike, if options that heed a call to stop see the same one. -/
theorem tick {o : Options} (hheed : o.cancellable = true → heed) :
    Simulates (Run.Matches heed C) (RenderM.tick o) (RenderM.tick o) := by
  intro s t h
  have hcancelled : o.cancellable = true → s.cancelled = t.cancelled :=
    fun hcancellable => h.cancelled (hheed hcancellable)
  simp only [RenderM.tick, h.evaluations, Options.admitsEvaluation_congr hcancelled, true_and]
  exact ⟨h.output, rfl, h.iterations, h.cancelled, h.context, h.calls⟩

/-- A frame that is pushed before and popped behind both steps changes nothing between them. -/
theorem inFrame {x y : RenderM α} (hxy : Simulates (Run.Matches heed C) x y) :
    Simulates (Run.Matches heed C) (RenderM.inFrame x) (RenderM.inFrame y) := by
  intro s t h
  have hpush : Run.Matches heed C { s with context := s.context.push }
      { t with context := t.context.push } := by
    refine ⟨h.output, h.evaluations, h.iterations, h.cancelled, ?_, h.calls⟩
    rw [h.context]
  obtain ⟨hres, hrun⟩ := hxy _ _ hpush
  refine ⟨hres, hrun.output, hrun.evaluations, hrun.iterations, hrun.cancelled, ?_, hrun.calls⟩
  exact congrArg Context.pop hrun.context

/-- **Filters whose replies match** simulate each other, if `C` does not tell the two calls
apart. -/
theorem call {f : Filter} {v w : Value} {arg : Option Value}
    (hreply : (f.apply v arg).Matches heed (f.apply w arg))
    (hC : C ⟨f.name, v, arg⟩ ⟨f.name, w, arg⟩) :
    Simulates (Run.Matches heed C) (f.call v arg) (f.call w arg) := by
  intro s t h
  refine ⟨hreply.result, h.output, h.evaluations, h.iterations, fun hheed => ?_, h.context,
    .cons hC h.calls⟩
  simp only [Filter.call, h.cancelled hheed, hreply.cancels hheed]

/-- **Simulation in matching runs is kept by putting steps together**, if `C` relates every call to
itself, and if options that heed a call to stop see the same one. -/
theorem congruence (hC : ∀ c, C c c) (o : Options) (hheed : o.cancellable = true → heed) :
    Congruence o o (Simulates (Run.Matches heed C)) := by
  have hcomposes : Composes (Simulates (Run.Matches heed C)) := { pure, ofExcept, bind, located }
  refine { hcomposes with
    resolve, resolveOr
    call := fun _ _ _ => call (.of_eq rfl) (hC _)
    tick := tick hheed
    forEach := hcomposes.forEach o o ?_ (fun _ _ _ _ => ?_) fun _ _ => inFrame }
  -- What is left are the beginning of a turn and the binding of its item, which call nothing.
  · exact of_frame fun _ _ _ => rfl
  · exact of_frame fun _ _ _ => rfl

/-- Evaluations ask no options, and so it does not matter to them who heeds a call to stop. -/
theorem congruence_expr (hC : ∀ c, C c c) : Congruence {} {} (Simulates (Run.Matches heed C)) :=
  congruence hC {} fun hcancellable => absurd hcancellable Bool.false_ne_true

end RenderM.Simulates

end Matching

end Stencil
