import Stencil.Filter.Standard
import Stencil.Proofs.Engine.Cache
import Stencil.Proofs.Program.Problems

/-!
# Templates with a wrong call

A template is loaded as a tree only if the compiler rejects it for a construct that has no
statement, and not if it rejects it for a call that can never work. But the compiler reports one
problem, the first one. A template with a wrong call is therefore never compiled, and without trees
it is never loaded at all; but if trees are kept, what matters is whether the wrong call or a block
comes first. A wrong call behind a block, in the head of one or inside one goes unnoticed until it
is rendered.

## Main results

* `Engine.get_add`: what is loaded from a source that was just added
* `get_of_wrong_call`: what becomes of a template with a wrong call
* `get_ok_of_wrong_call`: wrong calls that are loaded
-/

namespace Stencil

/-- What is loaded from a source that was just added does not depend on what was there before. -/
theorem Engine.get_add (g : Engine) (name source : String) :
    ((g.add name source).get name).1 = (g.load name source).map (⟨·, g.loads⟩) := by
  have hcache : (g.add name source).cache.get? name = none := by simp [Engine.add]
  have hsource : (g.add name source).source name = .ok source := by
    simp [Engine.source, Engine.add]
  have hload : (g.add name source).load name source = g.load name source :=
    Engine.load_congr rfl rfl name source
  simp only [Engine.get, hcache, hsource, hload]
  cases g.load name source <;> rfl

/-- A template with a problem is loaded as a tree if its first problem is a block and trees are
kept, and not loaded otherwise. -/
theorem Engine.get_add_of_head_problems {g : Engine} {source : String} {t : Template}
    (hparse : Template.parse source = .ok t) {first : CompileError}
    (hfirst : (t.problems g.registry).head? = some first) (name : String) :
    ((g.add name source).get name).1 =
      if first.isUnsupported && g.options.keepTrees then .ok ⟨.tree name t, g.loads⟩
      else .error (.compile name first) := by
  obtain ⟨rest, hrest⟩ := List.head?_eq_some_iff.mp hfirst
  have hload : g.load name source =
      if first.isUnsupported && g.options.keepTrees then .ok (.tree name t)
      else .error (.compile name first) := by
    unfold Engine.load Engine.parse
    rw [hparse]
    dsimp only
    rw [Template.compile_of_problems_eq_cons hrest g.options (some name)]
  rw [Engine.get_add, hload]
  split
  · rfl
  · rfl

/-- **A template with a wrong call is never compiled.** Wherever the call stands, the template has a
first problem, and that is the error if trees are not kept, or if it is a call itself. If trees are
kept and it is a block, then the template is loaded all the same, as a tree. -/
theorem get_of_wrong_call {g : Engine} {source : String} {t : Template}
    (hparse : Template.parse source = .ok t) {call : FilterCall} (hcall : call ∈ t.calls)
    (hwrong : (call.problem? g.registry).isSome) (name : String) :
    ∃ first, (t.problems g.registry).head? = some first ∧
      (g.options.keepTrees = false ∨ first.isUnsupported = false →
        ((g.add name source).get name).1 = .error (.compile name first)) ∧
      (g.options.keepTrees = true ∧ first.isUnsupported = true →
        ((g.add name source).get name).1 = .ok ⟨.tree name t, g.loads⟩) := by
  obtain ⟨problem, hproblem⟩ := Option.isSome_iff_exists.mp hwrong
  have hne := Template.problems_ne_nil hproblem hcall
  obtain ⟨first, hfirst⟩ := Option.isSome_iff_exists.mp (List.isSome_head?.mpr hne)
  refine ⟨first, hfirst, ?_, ?_⟩
  · intro h
    rw [Engine.get_add_of_head_problems hparse hfirst, if_neg]
    rcases h with h | h <;> simp [h]
  · rintro ⟨hkeep, hblock⟩
    rw [Engine.get_add_of_head_problems hparse hfirst, hblock, hkeep]
    exact if_pos rfl

/-- Whether a call of a source is wrong, and the first problem of the source, if it parses. -/
def wrongCall? (r : Registry) (source : String) : Option (Bool × Option CompileError) :=
  (Template.parse source).toOption.map fun t =>
    (t.calls.any fun call => (call.problem? r).isSome, (t.problems r).head?)

theorem parse_of_wrongCall? {r : Registry} {source : String} {first : CompileError}
    (h : wrongCall? r source = some (true, some first)) :
    ∃ t, Template.parse source = .ok t ∧ (∃ call ∈ t.calls, (call.problem? r).isSome) ∧
      (t.problems r).head? = some first := by
  rw [wrongCall?] at h
  cases hparse : Template.parse source with
  | error _ =>
    rw [hparse] at h
    cases h
  | ok t =>
    rw [hparse] at h
    obtain ⟨hcalls, hfirst⟩ := Prod.mk.inj (Option.some.inj h)
    exact ⟨t, rfl, List.any_eq_true.mp hcalls, hfirst⟩

/-- A wrong call behind a block: without trees the block is the error, and with trees the template
is loaded. -/
theorem get_of_wrong_call_behind_block :
    let source := "\x7b% filter upper %\x7dx\x7b% endfilter %\x7d\x7b\x7b y|nope \x7d\x7d"
    let g (keep : Bool) : Engine := { registry := .standard, options := { keepTrees := keep } }
    ∃ t call, Template.parse source = .ok t ∧ call ∈ t.calls ∧
      (call.problem? .standard).isSome ∧
      (((g false).add "a" source).get "a").1 =
        .error (.compile "a" (.unsupported "filter block" ⟨1, 1⟩)) ∧
      (((g true).add "a" source).get "a").1 = .ok ⟨.tree "a" t, 0⟩ := by
  intro source g
  have hsource : wrongCall? .standard source =
      some (true, some (.unsupported "filter block" ⟨1, 1⟩)) := by
    decide +kernel
  obtain ⟨t, hparse, ⟨call, hcall, hwrong⟩, hfirst⟩ := parse_of_wrongCall? hsource
  refine ⟨t, call, hparse, hcall, hwrong, ?_, ?_⟩
  · obtain ⟨first, hhead, herror, -⟩ := get_of_wrong_call (g := g false) hparse hcall hwrong "a"
    obtain rfl := Option.some.inj (hhead.symm.trans hfirst)
    exact herror (.inl rfl)
  · obtain ⟨first, hhead, -, htree⟩ := get_of_wrong_call (g := g true) hparse hcall hwrong "a"
    obtain rfl := Option.some.inj (hhead.symm.trans hfirst)
    exact htree ⟨rfl, rfl⟩

/-- Calls of a filter that does not exist, behind a block, in the head of one and inside one: all
are loaded. Before the block such a call is an error. -/
theorem get_ok_of_wrong_call :
    let g : Engine := { registry := .standard, options := {} }
    let behind := "\x7b% filter upper %\x7dx\x7b% endfilter %\x7d\x7b\x7b y|nope \x7d\x7d"
    let head := "\x7b% filter nope %\x7dx\x7b% endfilter %\x7d"
    let inside := "\x7b% filter upper %\x7d\x7b\x7b y|nope \x7d\x7d\x7b% endfilter %\x7d"
    let before := "\x7b\x7b y|nope \x7d\x7d\x7b% filter upper %\x7dx\x7b% endfilter %\x7d"
    (∀ source ∈ [behind, head, inside], ∃ t, Template.parse source = .ok t ∧
        (∃ call ∈ t.calls, (call.problem? .standard).isSome) ∧
        ((g.add "a" source).get "a").1 = .ok ⟨.tree "a" t, 0⟩) ∧
      ((g.add "a" before).get "a").1 = .error (.compile "a" (.unknownFilter "nope" ⟨1, 6⟩)) := by
  intro g behind head inside before
  have hblocks : ∀ source ∈ [behind, head, inside], wrongCall? .standard source =
      some (true, some (.unsupported "filter block" ⟨1, 1⟩)) := by
    decide +kernel
  have hbefore : wrongCall? .standard before =
      some (true, some (.unknownFilter "nope" ⟨1, 6⟩)) := by
    decide +kernel
  constructor
  · intro source hsource
    obtain ⟨t, hparse, hwrong, hfirst⟩ := parse_of_wrongCall? (hblocks source hsource)
    exact ⟨t, hparse, hwrong, Engine.get_add_of_head_problems (g := g) hparse hfirst "a"⟩
  · obtain ⟨t, hparse, -, hfirst⟩ := parse_of_wrongCall? hbefore
    exact Engine.get_add_of_head_problems (g := g) hparse hfirst "a"

end Stencil
