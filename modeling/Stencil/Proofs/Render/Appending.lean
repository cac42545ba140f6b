import Mathlib.Data.List.Basic
import Stencil.Filter.Standard
import Stencil.Proofs.Render.Pieces

/-!
# Rendering only appends

No step of a rendering looks at what has been written before it: the output that a rendering begins
with stands in front of all that it writes, and has no other influence. This is a frame property of
the output. It is kept by sequences and loops, and it holds of a block for a reason of its own: the
output is put aside while the body is rendered, and is there again behind it, whether the body has
succeeded or failed.

So the body of a block may be rendered on its own. What its filter makes of the output comes behind
the output of before; and where the body or the filter fails, nothing comes behind it at all.

## Main definitions

* `Run.unwritten s`: the run with an empty output
* `Run.prepend text s`: the run with a text in front of its output
* `RenderM.Appends x`: a text in front of the output stays there, and changes nothing else

## Main results

* `RenderM.Appends.congruence`: appending only is kept by putting steps together
* `FilterCall.filterOutput_apply`: a block, told by its body that is rendered on its own
* `render_appends`: a rendering goes on behind the output that it begins with
-/

namespace Stencil

variable {α β : Type}

/-! ## Outputs that begin with a text -/

namespace Run

/-- The run with an empty output. -/
def unwritten (s : Run) : Run :=
  { s with output := "" }

/-- The run with a text in front of its output. -/
def prepend (text : String) (s : Run) : Run :=
  { s with output := text ++ s.output }

/-- The output of a run stands in front of an empty one. -/
theorem prepend_unwritten (s : Run) : s.unwritten.prepend s.output = s := by
  simp [prepend, unwritten]

end Run

/-- A text in front of the output stays there, and the step does what it does without it. -/
def RenderM.Appends (x : RenderM α) : Prop :=
  ∀ text s, x (s.prepend text) = ((x s).1, (x s).2.prepend text)

namespace RenderM.Appends

/-- A step that neither reads nor writes the output appends nothing. -/
theorem of_quiet {x : RenderM α}
    (hx : ∀ s output, x { s with output } = ((x s).1, { (x s).2 with output })) : Appends x := by
  intro text s
  -- Replacing the output by itself shows that the step leaves it alone.
  have hkept : (x s).2.output = s.output := congrArg (fun out => out.2.output) (hx s s.output)
  rw [Run.prepend, hx s, Run.prepend, hkept]

theorem append (content : String) : Appends (RenderM.append content) := by
  intro text s
  simp [Run.prepend, String.append_assoc]

/-- The second step of a sequence goes on behind the first one, with the same text in front. -/
theorem bind {x : RenderM α} {f : α → RenderM β} (hx : Appends x) (hf : ∀ a, Appends (f a)) :
    Appends (x >>= f) := by
  intro text s
  have hfirst := hx text s
  rcases hs : x s with ⟨e | a, t⟩
  · rw [hs] at hfirst
    rw [bind_apply_error x f _ hfirst, bind_apply_error x f s hs]
  · rw [hs] at hfirst
    rw [bind_apply_ok x f _ hfirst, bind_apply_ok x f s hs]
    exact hf a text t

theorem located {x : RenderM α} (pos : Position) (hx : Appends x) :
    Appends (RenderM.located pos x) := by
  intro text s
  apply Prod.ext
  · rw [located_result, located_result, hx text s]
  · rw [located_state, located_state, hx text s]

theorem inFrame {x : RenderM α} (hx : Appends x) : Appends (RenderM.inFrame x) := by
  intro text s
  have hframe := hx text { s with context := s.context.push }
  unfold RenderM.inFrame
  rw [show ({ s.prepend text with context := (s.prepend text).context.push } : Run) =
    Run.prepend text { s with context := s.context.push } from rfl, hframe]
  rfl

/-- Whatever the step is, capturing it puts the output aside and brings it back. -/
theorem captured (x : RenderM Unit) : Appends (RenderM.captured x) := by
  intro text s
  -- The step itself begins with an empty output on both sides.
  have hempty : ({ s.prepend text with output := "" } : Run) = { s with output := "" } := rfl
  rw [RenderM.captured_apply, RenderM.captured_apply, hempty]
  rcases x { s with output := "" } with ⟨e | _, t⟩ <;> rfl

/-- **Appending only is kept by putting steps together.** -/
theorem congruence (o : Options) : Congruence o o fun x _ => Appends x := by
  have hcomposes : Composes fun x _ => Appends x := {
    pure := fun _ => of_quiet fun _ _ => rfl
    ofExcept := fun _ => of_quiet fun _ _ => rfl
    bind := bind
    located := located }
  refine { hcomposes with
    resolve := fun p => of_quiet fun s output => ?_
    resolveOr := fun _ _ => of_quiet fun _ _ => rfl
    call := fun _ _ _ => of_quiet fun _ _ => rfl
    tick := of_quiet fun _ _ => rfl
    forEach := hcomposes.forEach o o (of_quiet fun _ _ => rfl)
      (fun _ _ _ _ => of_quiet fun _ _ => rfl) fun _ _ => inFrame }
  simp only [RenderM.resolve]
  cases s.context.find? p <;> rfl

end RenderM.Appends

open RenderM (Appends Spells)

/-! ## Blocks -/

section Blocks

variable (r : Registry)

/-- A call neither reads nor writes the output. -/
theorem FilterCall.apply_output (call : FilterCall) (v : Value) (s : Run) (output : String) :
    call.apply r v { s with output } =
      ((call.apply r v s).1, { (call.apply r v s).2 with output }) := by
  have hquiet := call.related_apply (Spells.congruence_quiet (fun _ => True) {}) r v
  have hreplaced := hquiet.escaped s output
  rwa [Piece.spellAll, String.append_empty] at hreplaced

/-- **A block is told by its body, rendered on its own**: if the body and then the filter succeed,
the text of what the filter gives is written behind the output; otherwise the output is that of
before. -/
theorem FilterCall.filterOutput_apply (call : FilterCall) (x : RenderM Unit) (s : Run) :
    call.filterOutput r x s =
      match x s.unwritten with
      | (.error e, t) => (.error e, { t with output := s.output })
      | (.ok _, t) =>
        match call.apply r (.string t.output) t with
        | (.error e, u) => (.error e, { u with output := s.output })
        | (.ok v, u) => (.ok (), { u with output := s.output ++ v.text }) := by
  rw [FilterCall.filterOutput]
  rcases hx : x s.unwritten with ⟨e | _, t⟩
  · have hcaptured : RenderM.captured x s = (.error e, { t with output := s.output }) := by
      rw [Run.unwritten] at hx
      rw [RenderM.captured_apply, hx]
    rw [RenderM.bind_apply_error _ _ s hcaptured]
  · have hcaptured : RenderM.captured x s = (.ok t.output, { t with output := s.output }) := by
      rw [Run.unwritten] at hx
      rw [RenderM.captured_apply, hx]
    rw [RenderM.bind_apply_ok _ _ s hcaptured]
    -- The filter is called with the output of before in place, which makes no difference to it.
    have happly := call.apply_output r (.string t.output) t s.output
    rcases hcall : call.apply r (.string t.output) t with ⟨e | v, u⟩
    · rw [hcall] at happly
      rw [RenderM.bind_apply_error _ _ _ happly]
      simp only [hcall]
    · rw [hcall] at happly
      rw [RenderM.bind_apply_ok _ _ _ happly, RenderM.append_apply]
      simp only [hcall]

/-- A block succeeds where its body and its filter do, and then appends the text of what the filter
gives. -/
theorem FilterCall.filterOutput_eq_ok_iff {call : FilterCall} {x : RenderM Unit} {s last : Run} :
    call.filterOutput r x s = (.ok (), last) ↔
      ∃ t v u, x s.unwritten = (.ok (), t) ∧ call.apply r (.string t.output) t = (.ok v, u) ∧
        last = { u with output := s.output ++ v.text } := by
  rw [call.filterOutput_apply r x s]
  constructor
  · intro h
    split at h
    · cases h
    · next t hx =>
      split at h
      · cases h
      · next v u hcall => exact ⟨t, v, u, hx, hcall, (Prod.mk.inj h).2.symm⟩
  · rintro ⟨t, v, u, hx, hcall, rfl⟩
    simp only [hx, hcall]

theorem FilterCall.output_of_filterOutput_error {call : FilterCall} {x : RenderM Unit}
    {s last : Run} {e : RenderError} (h : call.filterOutput r x s = (.error e, last)) :
    last.output = s.output := by
  rw [call.filterOutput_apply r x s] at h
  split at h
  · rw [← (Prod.mk.inj h).2]
  · split at h
    · rw [← (Prod.mk.inj h).2]
    · cases h

theorem FilterCall.appends_filterOutput (call : FilterCall) (x : RenderM Unit) :
    Appends (call.filterOutput r x) := by
  apply RenderM.Appends.bind (.captured x)
  intro inner
  apply RenderM.Appends.bind (call.related_apply (RenderM.Appends.congruence {}) r (.string inner))
  exact fun v => .append v.text

end Blocks

/-! ## Templates -/

section Evaluations

variable {o : Options} {pos : Position} {x : RenderM Unit} {s last : Run}

/-- An evaluation succeeds if it is admitted, and then as the step does that it counts. -/
theorem RenderM.evaluation_eq_ok_iff :
    RenderM.evaluation o pos x s = (.ok (), last) ↔
      o.admitsEvaluation (s.evaluations + 1) s.cancelled = .ok () ∧
        x { s with evaluations := s.evaluations + 1 } = (.ok (), last) := by
  constructor
  · intro h
    obtain ⟨_, t, htick, hx⟩ := RenderM.bind_eq_ok (RenderM.located_eq_ok h)
    obtain ⟨hadmits, rfl⟩ := Prod.mk.inj htick
    exact ⟨hadmits, hx⟩
  · rintro ⟨hadmits, hx⟩
    have htick : RenderM.tick o s = (.ok (), { s with evaluations := s.evaluations + 1 }) :=
      Prod.ext hadmits rfl
    rw [RenderM.evaluation, RenderM.located, RenderM.bind_apply_ok _ _ s htick, hx]

/-- An evaluation that fails ends where it was refused, or where the step ends that it counts. -/
theorem RenderM.state_of_evaluation_error {e : RenderError}
    (h : RenderM.evaluation o pos x s = (.error e, last)) :
    last = { s with evaluations := s.evaluations + 1 } ∨
      ∃ e', x { s with evaluations := s.evaluations + 1 } = (.error e', last) := by
  rw [RenderM.evaluation, RenderM.located] at h
  split at h
  · cases h
  · next e' t hfails =>
    obtain rfl : t = last := (Prod.mk.inj h).2
    rcases hadmits : o.admitsEvaluation (s.evaluations + 1) s.cancelled with refusal | _
    · have htick : RenderM.tick o s =
          (.error refusal, { s with evaluations := s.evaluations + 1 }) := Prod.ext hadmits rfl
      rw [RenderM.bind_apply_error _ _ s htick] at hfails
      exact .inl (Prod.mk.inj hfails).2.symm
    · have htick : RenderM.tick o s = (.ok (), { s with evaluations := s.evaluations + 1 }) :=
        Prod.ext hadmits rfl
      rw [RenderM.bind_apply_ok _ _ s htick] at hfails
      exact .inr ⟨e', hfails⟩

end Evaluations

theorem Node.appends_renderAll (r : Registry) (o : Options) (ns : List Node) :
    Appends (Node.renderAll r o ns) := by
  have hcongruence := RenderM.Appends.congruence o
  apply Node.related_renderAll hcongruence r ns
  rintro (content | e | call) -
  · exact .append content
  · exact .bind (e.related_eval hcongruence r) fun v => .append _
  · exact fun x _ _ => call.appends_filterOutput r x

/-- **A rendering goes on behind the output that it begins with**: begun with an empty output it
comes to the same result or error, the same counts and the same variables, and what it has written
by then stands behind the output of before. So a block that succeeds appends the text of what its
filter makes of the body, as that is rendered on its own with an empty output; and a block that
fails, in its body or in its filter, appends nothing. -/
theorem render_appends (r : Registry) (o : Options) (t : Template) (s : Run) :
    t.render r o s =
        ((t.render r o s.unwritten).1, (t.render r o s.unwritten).2.prepend s.output) ∧
      ∀ (call : FilterCall) (body : Template) (pos : Option Position),
        (∀ last, (Node.filtered call body pos).render r o s = (.ok (), last) ↔
          o.admitsEvaluation (s.evaluations + 1) s.cancelled = .ok () ∧
            ∃ u v w,
              body.render r o { s with output := "", evaluations := s.evaluations + 1 } =
                (.ok (), u) ∧
              call.apply r (.string u.output) u = (.ok v, w) ∧
              last = { w with output := s.output ++ v.text }) ∧
        ∀ e last, (Node.filtered call body pos).render r o s = (.error e, last) →
          last.output = s.output := by
  constructor
  · have happends := Node.appends_renderAll r o t s.output s.unwritten
    rwa [Run.prepend_unwritten] at happends
  intro call body pos
  have hrender : (Node.filtered call body pos).render r o =
      RenderM.evaluation o (pos.getD .unknown) (call.filterOutput r (body.render r o)) := by
    rw [Node.render]
    rfl
  rw [hrender]
  constructor
  · intro last
    rw [RenderM.evaluation_eq_ok_iff, FilterCall.filterOutput_eq_ok_iff]
    rfl
  · intro e last hfails
    -- Refused, the block has not begun; otherwise its body or its filter has failed.
    rcases RenderM.state_of_evaluation_error hfails with rfl | ⟨e', hblock⟩
    · rfl
    · have houtput := FilterCall.output_of_filterOutput_error r hblock
      exact houtput

/-- Two blocks in one another behind a text, of which the inner one lacks the variable of its
argument: begun behind another text, the rendering has written as much by then, and nothing of the
blocks. With the variable set, the outer block appends what its filter makes of both. -/
theorem render_appends_nested :
    let call : FilterCall := ⟨"add", some ⟨.variable ⟨"y", []⟩, none⟩, none⟩
    let inner : Node := .filtered call [.text "c" none] none
    let block : Node := .filtered ⟨"upper", none, none⟩ [.text "b" none, inner] none
    let t : Template := [.text "a" none, block]
    let s : Run := { output := "x" }
    let s' : Run := { output := "x", context := Context.empty.set "y" (.string "d") }
    t.render .standard {} s =
        ((t.render .standard {} s.unwritten).1,
          (t.render .standard {} s.unwritten).2.prepend "x") ∧
      (t.render .standard {} s).1 =
        .error { fault := .missingVariable "y", pos := some .unknown } ∧
      (t.render .standard {} s).2.output = "xa" ∧
      (block.render .standard {} s).2.output = "x" ∧
      ∃ last, block.render .standard {} s' = (.ok (), last) ∧ last.output = "xBCD" := by
  intro call inner block t s s'
  obtain ⟨happends, hblock⟩ := render_appends .standard {} t s
  have herror : (block.render .standard {} s).1 =
      .error { fault := .missingVariable "y", pos := some .unknown } := by decide +kernel
  refine ⟨happends, by decide +kernel, by decide +kernel, ?_, ?_⟩
  · exact (hblock _ _ none).2 _ (block.render .standard {} s).2 (Prod.ext herror rfl)
  · have hok : (block.render .standard {} s').1 = .ok () := by decide +kernel
    have hwritten : (block.render .standard {} s').2.output = "xBCD" := by decide +kernel
    exact ⟨(block.render .standard {} s').2, Prod.ext hok rfl, hwritten⟩

end Stencil
