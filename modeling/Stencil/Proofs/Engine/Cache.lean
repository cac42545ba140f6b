import Mathlib.Logic.Function.Basic
import Stencil.Engine.Basic

/-!
# The cache of an engine

What an engine keeps of earlier loads cannot be told from its answers. Beside the engine stands a
library, which keeps nothing but the latest source of every name and loads from it again whenever it
is asked. An engine represents a library if it has the same sources and every load it keeps is what
the source of that name would give now. Each request keeps this, and is answered alike.

## Main definitions

* `Engine.Request`, `Engine.Answer`: the calls to an engine and what they give
* `Engine.step`, `Engine.run`: one call, and one call after the other
* `Library`, `Library.answer`, `Library.after`, `Library.run`: the same calls without a cache
* `Engine.CacheFresh`: every load that is kept is what its source gives
* `Engine.Represents g l`: `g` answers as `l` does

## Main results

* `Engine.get_spec`: what is got is what is loaded from the source, and a failure changes nothing
* `Engine.step_spec`, `Engine.run_spec`: calls are answered as by the library
* `run_eq_library_run`: the cache is invisible
-/

namespace Stencil

namespace Engine

/-- A call to an engine. A rendering starts from the run that its caller gives. -/
inductive Request where
  | add (name source : String)
  | get (name : String)
  | render (name : String) (s : Run)
  | renderWith (name : String) (o : Options) (s : Run)
  | renderTree (name : String) (o : Options) (s : Run)

/-- What a call gives. -/
inductive Answer where
  | added
  | loaded (result : Except LoadError Loaded)
  | rendered (result : Except TemplateError String) (s : Run)

/-- Why a call could not load its template, if it could not. -/
def Answer.loadError? : Answer → Option LoadError
  | loaded (.error e) => some e
  | rendered (.error (.load e)) _ => some e
  | _ => none

/-- One call: its answer, and the engine behind it. -/
def step (g : Engine) : Request → Answer × Engine
  | .add name source => (.added, g.add name source)
  | .get name =>
    let (result, g) := g.get name
    (.loaded (result.map Load.loaded), g)
  | .render name s =>
    let ((result, s), g) := g.render name {} s
    (.rendered result s, g)
  | .renderWith name o s =>
    let ((result, s), g) := g.render name o s
    (.rendered result s, g)
  | .renderTree name o s =>
    let (result, s) := g.renderTree name o s
    (.rendered result s, g)

/-- One call after the other: the answers in order, and the engine behind the last call. -/
def run (g : Engine) : List Request → List Answer × Engine
  | [] => ([], g)
  | request :: rest =>
    let (answer, g) := g.step request
    let (answers, g) := g.run rest
    (answer :: answers, g)

end Engine

/-! ## Without a cache -/

/-- The latest source of every name, and how sources are loaded. -/
structure Library where
  registry : Registry
  options : CompileOptions
  source? : String → Option String := fun _ => none

namespace Library

open Engine (Request Answer)

/-- What is loaded from the latest source of a name. -/
def load (l : Library) (name : String) : Except LoadError Loaded :=
  match l.source? name with
  | some source => Engine.load { registry := l.registry, options := l.options } name source
  | none => .error (.notFound name)

/-- The output of what is loaded from the latest source of a name. -/
def render (l : Library) (name : String) (o : Options) (s : Run) :
    Except TemplateError String × Run :=
  match l.load name with
  | .ok loaded => (loaded.render l.registry o).outcome s
  | .error e => (.error (.load e), s)

/-- The output of the tree of the latest source of a name. -/
def renderTree (l : Library) (name : String) (o : Options) (s : Run) :
    Except TemplateError String × Run :=
  match l.source? name with
  | some source =>
    match Template.parse source with
    | .ok t => (t.render l.registry o).outcome s
    | .error e => (.error (.load (.parse name e)), s)
  | none => (.error (.load (.notFound name)), s)

/-- The answer to a call. -/
def answer (l : Library) : Request → Answer
  | .add _ _ => .added
  | .get name => .loaded (l.load name)
  | .render name s => .rendered (l.render name {} s).1 (l.render name {} s).2
  | .renderWith name o s => .rendered (l.render name o s).1 (l.render name o s).2
  | .renderTree name o s => .rendered (l.renderTree name o s).1 (l.renderTree name o s).2

/-- The library behind a call: only a new source changes it. -/
def after (l : Library) : Request → Library
  | .add name source => { l with source? := Function.update l.source? name (some source) }
  | _ => l

/-- The answers to one call after the other. -/
def run (l : Library) : List Request → List Answer
  | [] => []
  | request :: rest => l.answer request :: (l.after request).run rest

end Library

namespace Engine

/-! ## What a cache may hold -/

/-- Every load that is kept is what the source of its name gives now. -/
def CacheFresh (g : Engine) : Prop :=
  ∀ name found, g.cache.get? name = some found →
    ∃ source, g.sources.get? name = some source ∧ g.load name source = .ok found.loaded

/-- The engine has the sources of the library and loads them in the same way, and what it keeps is
fresh. -/
structure Represents (g : Engine) (l : Library) : Prop where
  registry : g.registry = l.registry
  options : g.options = l.options
  sources : ∀ name, g.sources.get? name = l.source? name
  fresh : g.CacheFresh

/-- Loading depends on the registry and the options only. -/
theorem load_congr {g g' : Engine} (hr : g.registry = g'.registry) (ho : g.options = g'.options)
    (name source : String) : g.load name source = g'.load name source := by
  unfold load
  rw [hr, ho]

namespace Represents

variable {g : Engine} {l : Library} (h : g.Represents l)
include h

theorem load_eq (name : String) {source : String} (hs : g.sources.get? name = some source) :
    g.load name source = l.load name := by
  rw [Library.load, ← h.sources name, hs]
  exact load_congr h.registry h.options name source

/-- A new source drops what was kept under its name, and leaves what is kept under other names as
fresh as it was. -/
theorem add (name source : String) :
    (g.add name source).Represents (l.after (.add name source)) where
  registry := h.registry
  options := h.options
  sources other := by
    simp only [Engine.add, Library.after, Bindings.get?_insert, Function.update_apply, h.sources]
  fresh other found hfound := by
    simp only [Engine.add, Bindings.get?_erase] at hfound
    split at hfound
    · cases hfound
    · next hother =>
      obtain ⟨s, hs, hload⟩ := h.fresh other found hfound
      refine ⟨s, ?_, hload⟩
      simp only [Engine.add, Bindings.get?_insert, if_neg hother, hs]

/-- What is loaded from the source of a name may be kept under it. -/
theorem keep {name source : String} {loaded : Loaded} (hs : g.sources.get? name = some source)
    (hload : g.load name source = .ok loaded) (number loads : Nat) :
    Represents { g with cache := g.cache.insert name ⟨loaded, number⟩, loads } l where
  registry := h.registry
  options := h.options
  sources := h.sources
  fresh other found hfound := by
    simp only [Bindings.get?_insert] at hfound
    split at hfound
    · next hother =>
      obtain rfl := Option.some.inj hfound
      subst hother
      exact ⟨source, hs, hload⟩
    · exact h.fresh other found hfound

end Represents

/-! ## Calls -/

/-- What is got under a name is what the library loads, the engine still represents the library, and
where nothing can be loaded the engine is as before. -/
theorem get_spec {g : Engine} {l : Library} (h : g.Represents l) (name : String) :
    (g.get name).1.map Load.loaded = l.load name ∧ (g.get name).2.Represents l ∧
      ∀ e, (g.get name).1 = .error e → (g.get name).2 = g := by
  cases hcache : g.cache.get? name with
  | some found =>
    obtain ⟨source, hs, hload⟩ := h.fresh name found hcache
    rw [h.load_eq name hs] at hload
    simp only [get, hcache]
    exact ⟨hload.symm, h, fun _ _ => trivial⟩
  | none =>
    cases hs : g.sources.get? name with
    | none =>
      have hnone : l.load name = .error (.notFound name) := by
        rw [Library.load, ← h.sources name, hs]
      simp only [get, hcache, source, hs]
      exact ⟨hnone.symm, h, fun _ _ => trivial⟩
    | some source =>
      have hload := h.load_eq name hs
      cases hloaded : g.load name source with
      | error e =>
        rw [hloaded] at hload
        simp only [get, hcache, Engine.source, hs, hloaded]
        exact ⟨hload, h, fun _ _ => trivial⟩
      | ok loaded =>
        rw [hloaded] at hload
        simp only [get, hcache, Engine.source, hs, hloaded]
        exact ⟨hload, h.keep hs hloaded _ _, fun _ he => nomatch he⟩

/-- A template is rendered as by the library. -/
theorem render_spec {g : Engine} {l : Library} (h : g.Represents l) (name : String) (o : Options)
    (s : Run) :
    (g.render name o s).1 = l.render name o s ∧ (g.render name o s).2.Represents l ∧
      ∀ e, (g.render name o s).1.1 = .error (.load e) → (g.render name o s).2 = g := by
  obtain ⟨hanswer, hrep, hfail⟩ := get_spec h name
  simp only [render, Library.render]
  cases hget : g.get name with
  | mk result g' =>
    rw [hget] at hanswer hrep hfail
    cases result with
    | error e =>
      rw [← hanswer]
      exact ⟨rfl, hrep, fun _ _ => hfail e rfl⟩
    | ok found =>
      rw [← hanswer, ← hrep.registry]
      refine ⟨rfl, hrep, fun e he => ?_⟩
      -- Once something is loaded, an error is an error of rendering.
      simp only [RenderM.outcome] at he
      split at he <;> cases he

/-- A tree is rendered as by the library. -/
theorem renderTree_eq {g : Engine} {l : Library} (h : g.Represents l) (name : String)
    (o : Options) (s : Run) : g.renderTree name o s = l.renderTree name o s := by
  unfold renderTree Library.renderTree Except.bind parse
  rw [Engine.source, ← h.sources name, h.registry]
  -- Whatever the source spells, both sides do the same with it.
  generalize Template.parse = parser
  cases g.sources.get? name with
  | none => rfl
  | some source => cases hparsed : parser source <;> simp only [hparsed]

/-- **One call is answered as by the library**, which the engine goes on to represent; and a call
that cannot load its template changes nothing. -/
theorem step_spec {g : Engine} {l : Library} (h : g.Represents l) (request : Request) :
    (g.step request).1 = l.answer request ∧ (g.step request).2.Represents (l.after request) ∧
      ∀ e, (g.step request).1.loadError? = some e → (g.step request).2 = g := by
  -- Both ways to render a template under a name differ in the options only.
  have hrender (name : String) (o : Options) (s : Run) :
      (g.step (.renderWith name o s)).1 = l.answer (.renderWith name o s) ∧
        (g.step (.renderWith name o s)).2.Represents l ∧
        ∀ e, (g.step (.renderWith name o s)).1.loadError? = some e →
          (g.step (.renderWith name o s)).2 = g := by
    obtain ⟨hanswer, hrep, hfail⟩ := render_spec h name o s
    refine ⟨?_, hrep, fun e he => hfail e ?_⟩
    · simp only [step, Library.answer, hanswer]
    · simp only [step] at he
      revert he
      cases (g.render name o s).1.1 with
      | ok text => exact fun he => nomatch he
      | error cause => cases cause <;> simp [Answer.loadError?]
  cases request with
  | add name source => exact ⟨rfl, h.add name source, fun e he => nomatch he⟩
  | get name =>
    obtain ⟨hanswer, hrep, hfail⟩ := get_spec h name
    refine ⟨congrArg Answer.loaded hanswer, hrep, fun e he => ?_⟩
    cases hresult : (g.get name).1 with
    | error e' => exact hfail e' hresult
    | ok found =>
      simp only [step, hresult, Except.map, Answer.loadError?] at he
      cases he
  | render name s => exact hrender name {} s
  | renderWith name o s => exact hrender name o s
  | renderTree name o s =>
    refine ⟨?_, h, fun _ _ => rfl⟩
    simp only [step, Library.answer, renderTree_eq h]

/-- Calls one after the other are answered as by the library, which the engine goes on to
represent. -/
theorem run_spec {g : Engine} {l : Library} (h : g.Represents l) (requests : List Request) :
    (g.run requests).1 = l.run requests ∧ ∃ l', (g.run requests).2.Represents l' := by
  induction requests generalizing g l with
  | nil => exact ⟨rfl, l, h⟩
  | cons request rest ih =>
    obtain ⟨hanswer, hrep, -⟩ := step_spec h request
    obtain ⟨hanswers, l', hrep'⟩ := ih hrep
    refine ⟨?_, l', hrep'⟩
    simp only [run, Library.run, hanswer, hanswers]

end Engine

/-- **The cache of an engine is invisible.** From a new engine, calls one after the other are
answered as by a library that loads every template again; every load that is kept is what the
current source of its name gives; and a call that cannot load its template leaves the sources and
the cache as they are. -/
theorem run_eq_library_run (r : Registry) (c : CompileOptions) (requests : List Engine.Request) :
    let g := Engine.run { registry := r, options := c } requests
    g.1 = Library.run { registry := r, options := c } requests ∧
      (∀ name found, g.2.cache.get? name = some found →
        ∃ source, g.2.sources.get? name = some source ∧
          g.2.load name source = .ok found.loaded) ∧
      ∀ request e, (g.2.step request).1.loadError? = some e →
        (g.2.step request).2.sources = g.2.sources ∧ (g.2.step request).2.cache = g.2.cache := by
  have hnew : Engine.Represents { registry := r, options := c }
      { registry := r, options := c } :=
    ⟨rfl, rfl, fun _ => rfl, fun _ _ h => nomatch h⟩
  obtain ⟨hanswers, l, hrep⟩ := Engine.run_spec hnew requests
  refine ⟨hanswers, hrep.fresh, fun request e he => ?_⟩
  obtain ⟨-, -, hfail⟩ := Engine.step_spec hrep request
  rw [hfail e he]
  exact ⟨rfl, rfl⟩

end Stencil
