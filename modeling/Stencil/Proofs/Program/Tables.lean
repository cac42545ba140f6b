import Stencil.Program.Compile

/-!
# Tables during a compilation

The tables of a program only grow while a template is compiled, so a handle means the same from the
moment it is given out. What it means is right under two conditions that every compilation keeps:
the table of paths holds paths of the template only, among which a path is known by its key, and the
table of filters holds filters of the registry.

## Main definitions

* `Tables.GrowsTo t T`: `T` holds what `t` holds at the same places
* `Tables.Sound S r t`: the paths are among `S`, and the filters come from `r`
* `CompileM.Yields I x P`: a part of a compilation that keeps `I` and whose outcome has the property
  `P` in all tables that the tables behind it grow to

## Main results

* `CompileM.Yields.bind`: the parts of a compilation one after the other
* `CompileM.yields_resolve`, `CompileM.yields_internFilter`: a lookup denotes the path it was made
  for, and the handle of a filter that filter
-/

namespace Stencil

/-- A handle keeps its path when paths are added behind the others. -/
theorem PathTable.get?_of_grows {t u : PathTable} (h : t.paths <+: u.paths)
    {handle : VariableHandle} {p : Path} (hp : t.get? handle = some p) :
    u.get? handle = some p := by
  obtain ⟨hlt, rfl⟩ := List.getElem?_eq_some_iff.mp hp
  exact List.prefix_iff_getElem?.mp h handle.index hlt

/-- `T` holds what `t` holds, at the same places, and perhaps more. -/
structure Tables.GrowsTo (t T : Tables) : Prop where
  paths : t.paths.paths <+: T.paths.paths
  filters : t.filters <+: T.filters

namespace Tables.GrowsTo

variable {t u v : Tables}

theorem refl (t : Tables) : t.GrowsTo t :=
  ⟨List.prefix_refl _, List.prefix_refl _⟩

theorem trans (h₁ : t.GrowsTo u) (h₂ : u.GrowsTo v) : t.GrowsTo v :=
  ⟨h₁.paths.trans h₂.paths, h₁.filters.trans h₂.filters⟩

/-- A handle keeps its path. -/
theorem get?_paths (h : t.GrowsTo u) {handle : VariableHandle} {p : Path}
    (hp : t.paths.get? handle = some p) : u.paths.get? handle = some p :=
  PathTable.get?_of_grows h.paths hp

/-- A handle keeps its filter. -/
theorem filter? (h : t.GrowsTo u) {handle : FilterHandle} {f : Filter}
    (hf : t.filter? handle = some f) : u.filter? handle = some f := by
  obtain ⟨hlt, rfl⟩ := List.getElem?_eq_some_iff.mp hf
  exact List.prefix_iff_getElem?.mp h.filters handle.index hlt

end Tables.GrowsTo

/-- The paths are among `S`, and every filter is the one that the registry has under its name. -/
structure Tables.Sound (S : Path → Prop) (r : Registry) (t : Tables) : Prop where
  paths : ∀ p ∈ t.paths.paths, S p
  filters : ∀ f ∈ t.filters, r.get? f.name = some f

/-- The instruction that looks a variable up through its handle. -/
def Resolution.lookup : Resolution → VariableHandle → Expr
  | .strict, h => .resolve h .unknown
  | .lenient fallback, h => .tryResolve h (fallback.filter Expr.mayBeTruthy) .unknown

namespace Tables

variable {S : Path → Prop} {r : Registry} {t : Tables}

theorem sound_empty : Sound S r {} :=
  ⟨fun _ h => (List.not_mem_nil h).elim, fun _ h => (List.not_mem_nil h).elim⟩

/-- Entering a path of `S` keeps the tables sound; they grow, and the handle denotes the path. -/
theorem internPath_spec (hS : ∀ p q, S p → S q → p.key = q.key → p = q) (ht : t.Sound S r)
    {p : Path} (hp : S p) :
    (t.internPath p).2.Sound S r ∧ t.GrowsTo (t.internPath p).2 ∧
      (t.internPath p).2.paths.get? (t.internPath p).1 = some p := by
  simp only [internPath, PathTable.intern]
  split
  · next h hh =>
    -- The key is there already: both paths are among `S`, so they are the same path.
    obtain ⟨q, hq, hkey⟩ := PathTable.get?_of_handle? hh
    have hqS : S q := ht.paths q (List.mem_of_getElem? hq)
    obtain rfl := hS q p hqS hp hkey
    exact ⟨ht, .refl t, hq⟩
  · refine ⟨⟨fun q hq => ?_, ht.filters⟩, ⟨List.prefix_append _ _, List.prefix_refl _⟩, ?_⟩
    · rcases List.mem_append.mp hq with hq | hq
      · exact ht.paths q hq
      · rwa [List.mem_singleton.mp hq]
    · simp [PathTable.get?]

/-- A lookup is the instruction that its mode asks for, through the handle of the path. -/
theorem resolve_eq (t : Tables) (p : Path) (mode : Resolution) :
    t.resolve p mode = (mode.lookup (t.internPath p).1, (t.internPath p).2) := by
  cases mode <;> rfl

/-- Entering a filter of the registry keeps the tables sound; they grow, and the handle denotes the
filter. -/
theorem internFilter_spec (ht : t.Sound S r) {f : Filter} (hf : r.get? f.name = some f) :
    (t.internFilter f).2.Sound S r ∧ t.GrowsTo (t.internFilter f).2 ∧
      (t.internFilter f).2.filter? (t.internFilter f).1 = some f := by
  simp only [internFilter]
  split
  · next i hi =>
    -- The name is there already, and the registry has one filter under it.
    obtain ⟨hlt, hname, -⟩ := List.findIdx?_eq_some_iff_getElem.mp hi
    have hg := ht.filters t.filters[i] (List.getElem_mem hlt)
    rw [of_decide_eq_true hname, hf] at hg
    exact ⟨ht, .refl t, (List.getElem?_eq_getElem hlt).trans hg.symm⟩
  · refine ⟨⟨ht.paths, ?_⟩, ⟨List.prefix_refl _, List.prefix_append _ _⟩, by simp [filter?]⟩
    intro g hg
    rcases List.mem_append.mp hg with hg | hg
    · exact ht.filters g hg
    · rwa [List.mem_singleton.mp hg]

end Tables

namespace CompileM

variable {α β : Type} {I : Tables → Prop}

/-- Where this part of a compilation succeeds from tables with the property `I`, it ends in tables
with that property to which the first ones have grown; and what it gives has the property `P` in all
tables that these grow to in turn. -/
def Yields (I : Tables → Prop) (x : CompileM α) (P : Tables → α → Prop) : Prop :=
  ∀ t a t', I t → x t = .ok (a, t') → I t' ∧ t.GrowsTo t' ∧ ∀ T, t'.GrowsTo T → P T a

namespace Yields

theorem pure {P : Tables → α → Prop} {a : α} (h : ∀ T, P T a) :
    Yields I (Pure.pure a) P := by
  intro t b t' ht hb
  obtain ⟨rfl, rfl⟩ := Prod.mk.inj (Except.ok.inj hb)
  exact ⟨ht, .refl t, fun T _ => h T⟩

/-- Parts one after the other: the second may rely on what the first one gives. -/
theorem bind {x : CompileM α} {f : α → CompileM β} {P : Tables → α → Prop}
    {Q : Tables → β → Prop} (hx : Yields I x P)
    (hf : ∀ a, Yields I (f a) fun T b => P T a → Q T b) : Yields I (x >>= f) Q := by
  intro t b t' ht h
  simp only [Bind.bind] at h
  split at h
  · next a u hu =>
    obtain ⟨hIu, htu, hP⟩ := hx t a u ht hu
    obtain ⟨hIt', hut', hQ⟩ := hf a u b t' hIu h
    exact ⟨hIt', htu.trans hut', fun T hT => hQ T hT (hP T (hut'.trans hT))⟩
  · cases h

theorem imp {x : CompileM α} {P Q : Tables → α → Prop} (hx : Yields I x P)
    (h : ∀ T a, P T a → Q T a) : Yields I x Q := by
  intro t a t' ht ha
  obtain ⟨hIt', htt', hP⟩ := hx t a t' ht ha
  exact ⟨hIt', htt', fun T hT => h T a (hP T hT)⟩

theorem error (e : CompileError) (P : Tables → α → Prop) :
    Yields I (CompileM.ofExcept (.error e)) P := by
  intro t a t' _ h
  cases h

/-- Where a result leaves the tables as they are, only the result that is there counts. -/
theorem bind_ofExcept {result : Except CompileError α} {f : α → CompileM β}
    {Q : Tables → β → Prop} (hf : ∀ a, result = .ok a → Yields I (f a) Q) :
    Yields I (CompileM.ofExcept result >>= f) Q := by
  intro t b t' ht h
  cases result with
  | error e => cases h
  | ok a => exact hf a rfl t b t' ht h

end Yields

variable {S : Path → Prop} {r : Registry}

/-- **A lookup denotes the path it was made for**, in the tables of now and later. -/
theorem yields_resolve (hS : ∀ p q, S p → S q → p.key = q.key → p = q) {p : Path} (hp : S p)
    (mode : Resolution) :
    Yields (Tables.Sound S r) (enter (·.resolve p mode)) fun T e =>
      ∃ h, T.paths.get? h = some p ∧ e = mode.lookup h := by
  intro t e t' ht heq
  obtain ⟨hsound, hgrows, hget⟩ := Tables.internPath_spec hS ht hp
  rw [enter, Tables.resolve_eq] at heq
  obtain ⟨rfl, rfl⟩ := Prod.mk.inj (Except.ok.inj heq)
  exact ⟨hsound, hgrows, fun T hT => ⟨_, hT.get?_paths hget, rfl⟩⟩

/-- **The handle of a filter denotes that filter**, now and later. -/
theorem yields_internFilter {f : Filter} (hf : r.get? f.name = some f) :
    Yields (Tables.Sound S r) (enter (·.internFilter f)) fun T h => T.filter? h = some f := by
  intro t h t' ht heq
  obtain ⟨rfl, rfl⟩ := Prod.mk.inj (Except.ok.inj heq)
  obtain ⟨hsound, hgrows, hget⟩ := Tables.internFilter_spec ht hf
  exact ⟨hsound, hgrows, fun T hT => hT.filter? hget⟩

end CompileM

end Stencil
