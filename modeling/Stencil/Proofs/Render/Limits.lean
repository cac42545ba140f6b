import Stencil.Filter.Standard
import Stencil.Proofs.Render.Congruence

/-!
# Limits cut a rendering short

A rendering with limits follows the one without them step by step, up to the first evaluation or
turn that is one too many. If there is none, the two are the same. If there is one, the rendering
with limits fails there, and what it has written by then is what the other one begins with: a
rendering only ever appends to its output, and the output of a block that is not finished is dropped
on both sides.

## Main definitions

* `Options.Admits o s`: the counts of a run are within the limits
* `Options.unlimited o`: the same options without limits
* `Options.LimitFault o f`: the fault tells that a limit was exceeded
* `Run.GrowsTo s t`: the second run has counted no less, and its output begins with that of the
  first
* `RenderM.Cuts o x y`: `y` is `x`, cut short by the limits
* `Options.CutsShort o full cut`: so is the outcome of a rendering

## Main results

* `RenderM.Cuts.bind`, `RenderM.Cuts.captured`: sequences and blocks that are cut short
* `RenderM.Cuts.congruence`: being cut short is kept by putting steps together
* `limits_cut_short`: limits only cut a rendering short
-/

namespace Stencil

variable {α β : Type}

/-! ## Limits -/

namespace Options

/-- The counts of a run are within the limits. -/
def Admits (o : Options) (s : Run) : Prop :=
  (∀ max ∈ o.maxEvaluations, s.evaluations ≤ max) ∧ ∀ max ∈ o.maxIterations, s.iterations ≤ max

/-- The same options without limits. -/
def unlimited (o : Options) : Options :=
  { o with maxEvaluations := none, maxIterations := none }

/-- The fault tells that one of the limits was exceeded. -/
def LimitFault (o : Options) (f : Fault) : Prop :=
  (∃ max ∈ o.maxEvaluations, f = .tooManyEvaluations max) ∨
    ∃ max ∈ o.maxIterations, f = .tooManyIterations max

variable {o : Options}

/-- An evaluation within the limit is admitted as if there were none. -/
theorem admitsEvaluation_eq_unlimited {count : Nat} (h : ∀ max ∈ o.maxEvaluations, count ≤ max)
    (cancelled : Bool) :
    o.admitsEvaluation count cancelled = o.unlimited.admitsEvaluation count cancelled := by
  simp only [admitsEvaluation, unlimited]
  cases hmax : o.maxEvaluations with
  | none => rfl
  | some max => exact if_neg (Nat.not_lt.mpr (h max hmax))

/-- An evaluation beyond the limit is refused, also if there was a call to stop. -/
theorem admitsEvaluation_eq_error {count max : Nat} (hmax : o.maxEvaluations = some max)
    (h : max < count) (cancelled : Bool) :
    o.admitsEvaluation count cancelled = .error { fault := .tooManyEvaluations max } := by
  simp only [admitsEvaluation, hmax]
  exact if_pos h

theorem admitsIteration_eq_unlimited {count : Nat} (h : ∀ max ∈ o.maxIterations, count ≤ max) :
    o.admitsIteration count = o.unlimited.admitsIteration count := by
  simp only [admitsIteration, unlimited]
  cases hmax : o.maxIterations with
  | none => rfl
  | some max => exact if_neg (Nat.not_lt.mpr (h max hmax))

theorem admitsIteration_eq_error {count max : Nat} (hmax : o.maxIterations = some max)
    (h : max < count) : o.admitsIteration count = .error { fault := .tooManyIterations max } := by
  simp only [admitsIteration, hmax]
  exact if_pos h

end Options

/-! ## Runs that grow -/

/-- The second run has counted no less than the first, and its output begins with that of the
first. -/
structure Run.GrowsTo (s t : Run) : Prop where
  evaluations : s.evaluations ≤ t.evaluations
  iterations : s.iterations ≤ t.iterations
  output : ∃ rest, t.output = s.output ++ rest

namespace Run.GrowsTo

variable {s t u : Run}

theorem refl (s : Run) : s.GrowsTo s :=
  ⟨Nat.le_refl _, Nat.le_refl _, "", String.append_empty.symm⟩

theorem trans (h : s.GrowsTo t) (k : t.GrowsTo u) : s.GrowsTo u := by
  obtain ⟨rest, hrest⟩ := h.output
  obtain ⟨more, hmore⟩ := k.output
  refine ⟨Nat.le_trans h.evaluations k.evaluations, Nat.le_trans h.iterations k.iterations,
    rest ++ more, ?_⟩
  rw [hmore, hrest, String.append_assoc]

/-- Counts that are within the limits were so before. -/
theorem admits (h : s.GrowsTo t) {o : Options} (ht : o.Admits t) : o.Admits s :=
  ⟨fun max hmax => Nat.le_trans h.evaluations (ht.1 max hmax),
    fun max hmax => Nat.le_trans h.iterations (ht.2 max hmax)⟩

end Run.GrowsTo

/-! ## Steps that are cut short -/

/-- The step `y` is `x`, cut short by the limits: where `x` stays within them, `y` does the same;
where it does not, `y` fails with a limit, and what it has written is what `x` begins with. -/
structure RenderM.Cuts (o : Options) (x y : RenderM α) : Prop where
  grows : ∀ s : Run, s.GrowsTo (x s).2
  same : ∀ s, o.Admits (x s).2 → y s = x s
  fails : ∀ s, o.Admits s → ¬ o.Admits (x s).2 →
    ∃ e, (y s).1 = .error e ∧ o.LimitFault e.fault ∧ ∃ rest, (x s).2.output = (y s).2.output ++ rest

namespace RenderM.Cuts

variable {o : Options}

/-- A step that does not count is never cut short. -/
theorem of_counts {x : RenderM α} (hgrows : ∀ s : Run, s.GrowsTo (x s).2)
    (hcounts : ∀ s, (x s).2.evaluations = s.evaluations ∧ (x s).2.iterations = s.iterations) :
    Cuts o x x := by
  refine ⟨hgrows, fun _ _ => rfl, fun s hs hx => absurd ?_ hx⟩
  -- The counts are those from before, which were within the limits.
  obtain ⟨hevaluations, hiterations⟩ := hcounts s
  rw [Options.Admits, hevaluations, hiterations]
  exact hs

/-- A step that neither counts nor writes is never cut short. -/
theorem of_quiet {x : RenderM α} (h : ∀ s, (x s).2.output = s.output ∧
      (x s).2.evaluations = s.evaluations ∧ (x s).2.iterations = s.iterations) : Cuts o x x := by
  refine of_counts (fun s => ?_) fun s => (h s).2
  obtain ⟨houtput, hevaluations, hiterations⟩ := h s
  refine ⟨Nat.le_of_eq hevaluations.symm, Nat.le_of_eq hiterations.symm, "", ?_⟩
  rw [houtput, String.append_empty]

theorem append (text : String) : Cuts o (RenderM.append text) (RenderM.append text) :=
  of_counts (fun _ => ⟨Nat.le_refl _, Nat.le_refl _, text, rfl⟩) fun _ => ⟨rfl, rfl⟩

/-- The evaluation that is one too many fails. -/
theorem tick : Cuts o (RenderM.tick o.unlimited) (RenderM.tick o) where
  grows s := ⟨Nat.le_succ _, Nat.le_refl _, "", String.append_empty.symm⟩
  same s h := by
    have hadmits := Options.admitsEvaluation_eq_unlimited h.1 s.cancelled
    exact Prod.ext hadmits rfl
  fails s hs hx := by
    -- The turns have not changed, so it is the evaluations that are too many.
    have hexceeded : ¬ ∀ max ∈ o.maxEvaluations, s.evaluations + 1 ≤ max := fun h => hx ⟨h, hs.2⟩
    simp only [Classical.not_forall, Nat.not_le] at hexceeded
    obtain ⟨max, hmax, hlt⟩ := hexceeded
    refine ⟨_, Options.admitsEvaluation_eq_error hmax hlt s.cancelled, .inl ⟨max, hmax, rfl⟩, ?_⟩
    exact ⟨"", String.append_empty.symm⟩

/-- The turn that is one too many fails. -/
theorem turn : Cuts o (RenderM.turn o.unlimited) (RenderM.turn o) where
  grows s := ⟨Nat.le_refl _, Nat.le_succ _, "", String.append_empty.symm⟩
  same s h := by
    have hadmits := Options.admitsIteration_eq_unlimited h.2
    exact Prod.ext hadmits rfl
  fails s hs hx := by
    have hexceeded : ¬ ∀ max ∈ o.maxIterations, s.iterations + 1 ≤ max := fun h => hx ⟨hs.1, h⟩
    simp only [Classical.not_forall, Nat.not_le] at hexceeded
    obtain ⟨max, hmax, hlt⟩ := hexceeded
    refine ⟨_, Options.admitsIteration_eq_error hmax hlt, .inr ⟨max, hmax, rfl⟩, ?_⟩
    exact ⟨"", String.append_empty.symm⟩

/-- **A sequence is cut short where its first step is, or else where its second step is.** -/
theorem bind {x y : RenderM α} {f g : α → RenderM β} (hxy : Cuts o x y)
    (hfg : ∀ a, Cuts o (f a) (g a)) : Cuts o (x >>= f) (y >>= g) := by
  -- What follows the first step only adds to the counts and to the output.
  have hrest (s : Run) : (x s).2.GrowsTo ((x >>= f) s).2 := by
    rcases hx : x s with ⟨e | a, t⟩
    · rw [bind_apply_error x f s hx]
      exact .refl t
    · rw [bind_apply_ok x f s hx]
      exact (hfg a).grows t
  refine ⟨fun s => (hxy.grows s).trans (hrest s), fun s h => ?_, fun s hs h => ?_⟩
  · have hy := hxy.same s ((hrest s).admits h)
    rcases hx : x s with ⟨e | a, t⟩
    · rw [bind_apply_error x f s hx, bind_apply_error y g s (hy.trans hx)]
    · rw [bind_apply_ok x f s hx] at h ⊢
      rw [bind_apply_ok y g s (hy.trans hx)]
      exact (hfg a).same t h
  · by_cases hfirst : o.Admits (x s).2
    · -- The first step is within the limits, so it is the second one that exceeds them.
      have hy := hxy.same s hfirst
      rcases hx : x s with ⟨e | a, t⟩
      · rw [bind_apply_error x f s hx] at h
        rw [hx] at hfirst
        exact absurd hfirst h
      · rw [hx] at hfirst
        rw [bind_apply_ok x f s hx] at h ⊢
        rw [bind_apply_ok y g s (hy.trans hx)]
        exact (hfg a).fails t hfirst h
    · -- The first step fails already, and what the other side goes on to write comes behind.
      obtain ⟨e, he, hfault, rest, hout⟩ := hxy.fails s hs hfirst
      obtain ⟨more, hmore⟩ := (hrest s).output
      have hy : y s = (.error e, (y s).2) := Prod.ext he rfl
      rw [bind_apply_error y g s hy]
      refine ⟨e, rfl, hfault, rest ++ more, ?_⟩
      rw [hmore, hout, String.append_assoc]

theorem located {x y : RenderM α} (pos : Position) (hxy : Cuts o x y) :
    Cuts o (RenderM.located pos x) (RenderM.located pos y) := by
  refine ⟨fun s => ?_, fun s h => ?_, fun s hs h => ?_⟩
  · rw [located_state]
    exact hxy.grows s
  · rw [located_state] at h
    refine Prod.ext ?_ ?_
    · rw [located_result, located_result, hxy.same s h]
    · rw [located_state, located_state, hxy.same s h]
  · rw [located_state] at h ⊢
    obtain ⟨e, he, hfault, hout⟩ := hxy.fails s hs h
    refine ⟨e.orPos pos, ?_, hfault, ?_⟩
    · rw [located_result, he]
      rfl
    · rw [located_state]
      exact hout

theorem inFrame {x y : RenderM Unit} (hxy : Cuts o x y) :
    Cuts o (RenderM.inFrame x) (RenderM.inFrame y) := by
  -- Neither counts nor output are touched by the frame.
  refine ⟨fun s => ?_, fun s h => ?_, fun s hs h => ?_⟩
  · obtain ⟨hevaluations, hiterations, hout⟩ := hxy.grows { s with context := s.context.push }
    exact ⟨hevaluations, hiterations, hout⟩
  · have hsame := hxy.same { s with context := s.context.push } h
    rw [RenderM.inFrame, RenderM.inFrame, hsame]
  · exact hxy.fails { s with context := s.context.push } hs h

/-- **A block is cut short where its body is**, and then nothing of it has been written. -/
theorem captured {x y : RenderM Unit} (hxy : Cuts o x y) :
    Cuts o (RenderM.captured x) (RenderM.captured y) := by
  have hstate (z : RenderM Unit) (s : Run) :
      (RenderM.captured z s).2 = { (z { s with output := "" }).2 with output := s.output } := by
    rw [RenderM.captured_apply]
    rcases z { s with output := "" } with ⟨_ | _, t⟩ <;> rfl
  -- Behind the block there is the output of before, and the counts of the body.
  refine ⟨fun s => ?_, fun s h => ?_, fun s hs h => ?_⟩
  · obtain ⟨hevaluations, hiterations, -⟩ := hxy.grows { s with output := "" }
    rw [hstate x s]
    exact ⟨hevaluations, hiterations, "", String.append_empty.symm⟩
  · rw [hstate x s] at h
    rw [RenderM.captured_apply, RenderM.captured_apply, hxy.same { s with output := "" } h]
  · rw [hstate x s] at h
    obtain ⟨e, he, hfault, -⟩ := hxy.fails { s with output := "" } hs h
    have hy : y { s with output := "" } = (.error e, (y { s with output := "" }).2) :=
      Prod.ext he rfl
    refine ⟨e, ?_, hfault, "", ?_⟩
    · rw [RenderM.captured_apply, hy]
    · rw [hstate x s, hstate y s, String.append_empty]

/-- **Being cut short is kept by putting steps together.** -/
theorem congruence : Congruence o.unlimited o (Cuts o) := by
  have hcomposes : Composes (Cuts o) := {
    pure := fun _ => of_quiet fun _ => ⟨rfl, rfl, rfl⟩
    ofExcept := fun _ => of_quiet fun _ => ⟨rfl, rfl, rfl⟩
    bind := bind
    located := located }
  refine { hcomposes with
    resolve := fun p => of_quiet fun s => ?_
    resolveOr := fun _ _ => of_quiet fun _ => ⟨rfl, rfl, rfl⟩
    call := fun _ _ _ => of_quiet fun _ => ⟨rfl, rfl, rfl⟩
    tick := tick
    forEach := hcomposes.forEach _ _ turn (fun _ _ _ _ => of_quiet fun _ => ⟨rfl, rfl, rfl⟩)
      fun _ _ => inFrame }
  rw [RenderM.resolve]
  cases s.context.find? p <;> exact ⟨rfl, rfl, rfl⟩

end RenderM.Cuts

open RenderM (Cuts)

/-! ## Renderings that are cut short -/

/-- A value is written the same way with and without limits. -/
theorem RenderM.Cuts.emit {o : Options} {x : RenderM Value} (hx : Cuts o x x) :
    Cuts o (x >>= RenderM.emit o.unlimited) (x >>= RenderM.emit o) :=
  hx.bind fun _ => .append _

theorem Node.cuts_renderAll (r : Registry) (o : Options) (ns : List Node) :
    Cuts o (Node.renderAll r o.unlimited ns) (Node.renderAll r o ns) := by
  refine Node.related_renderAll RenderM.Cuts.congruence r ns ?_
  rintro (content | e | call) -
  · exact .append content
  · exact .emit (e.related_eval RenderM.Cuts.congruence r)
  · -- Only what the filter makes of the whole body is written.
    intro x y hxy
    refine .bind (.captured hxy) fun inner => ?_
    exact .bind (call.related_apply RenderM.Cuts.congruence r _) fun v => .append v.text

theorem Stmt.cuts_execAll (t : Tables) (o : Options) (ss : List Stmt) :
    Cuts o (Stmt.execAll t o.unlimited ss) (Stmt.execAll t o ss) := by
  refine Stmt.related_execAll RenderM.Cuts.congruence t ss ?_
  rintro (content | e | call) -
  · exact .append content
  · exact .emit (e.related_eval RenderM.Cuts.congruence t)
  · exact call.elim

/-- The outcome `cut` is the outcome `full`, cut short by the limits: if the counts of `full` are
within them, it is the same in every respect; otherwise it is an error that tells of a limit, and
its output is what the output of `full` begins with. -/
structure Options.CutsShort (o : Options) (full cut : Except RenderError Unit × Run) : Prop where
  within : o.Admits full.2 → cut = full
  beyond : ¬ o.Admits full.2 →
    ∃ e, cut.1 = .error e ∧ o.LimitFault e.fault ∧ ∃ rest, full.2.output = cut.2.output ++ rest

/-- **Limits only cut a rendering short**, of every template and of every program, from every run
whose counts are within the limits, such as one that has not begun. -/
theorem limits_cut_short (r : Registry) (t : Template) (p : Program) (o : Options) (s : Run)
    (hs : o.Admits s) :
    o.CutsShort (t.render r o.unlimited s) (t.render r o s) ∧
      o.CutsShort (p.execute o.unlimited s) (p.execute o s) := by
  have hrender := Node.cuts_renderAll r o t
  have hexecute := Stmt.cuts_execAll p.tables o p.body
  exact ⟨⟨hrender.same s, hrender.fails s hs⟩, ⟨hexecute.same s, hexecute.fails s hs⟩⟩

/-- With three evaluations at most, the template stops inside its block, of which nothing is
written; with one turn at most, the program stops before the second turn of its loop. -/
theorem limits_cut_short_block :
    let t : Template := [
      .text "a" none,
      .filtered ⟨"upper", none, none⟩ [.text "b" none, .text "c" none] none,
      .text "d" none]
    let p : Program := {
      name := none
      body := [.loop "i" (.literal (.array [.bool true, .bool false]) .unknown)
        [.text "e" .unknown] [] .unknown]
      tables := {} }
    let o : Options := { maxEvaluations := some 3, maxIterations := some 1 }
    o.Admits {} ∧
      (t.render .standard o.unlimited {}).2.output = "aBCd" ∧
      (t.render .standard o {}).2.output = "a" ∧
      (p.execute o.unlimited {}).2.output = "ee" ∧
      (p.execute o {}).2.output = "e" ∧
      o.CutsShort (t.render .standard o.unlimited {}) (t.render .standard o {}) ∧
      o.CutsShort (p.execute o.unlimited {}) (p.execute o {}) := by
  intro t p o
  have hadmits : o.Admits {} := ⟨fun _ _ => Nat.zero_le _, fun _ _ => Nat.zero_le _⟩
  refine ⟨hadmits, by decide +kernel, by decide +kernel, by decide +kernel, by decide +kernel, ?_⟩
  exact limits_cut_short .standard t p o {} hadmits

end Stencil
