import Stencil.Proofs.Path.Dotted
import Stencil.Proofs.Program.Faithful
import Stencil.Proofs.Program.Linking

/-!
# Variables that share a place

A table of paths has one place for every key. A compilation enters the variables of its template one
after the other, and each lookup of the program has the handle that was given out for its variable.
In the end that handle denotes the first variable of the template with the same key.

So lookups denote the variables they were made for exactly if no two variables of the template share
a key. Variables that are read from texts never do. Variables that are made of segments may, since
nothing keeps a dot out of a segment.

## Main definitions

* `Path.first? ps k`: the first of the paths with the key `k`
* `PathTable.internAll ps t`: the paths are entered one after the other

## Main results

* `PathTable.map_get?_internAll`: what the handles of paths denote once all are entered
* `Tables.Links.internAll_paths`: what entering references does to the table of paths
* `Template.internAll_paths`: a compilation enters the variables of its template in order
* `lookups_denote_paths_iff`: lookups denote their variables exactly if keys are distinct
* `lookup_denotes_other_path`: they need not if a segment contains a dot
-/

namespace Stencil

/-! ## Paths by key -/

namespace Path

/-- The first of the paths with the given key. -/
def first? (ps : List Path) (k : String) : Option Path :=
  ps.find? (·.key = k)

theorem first?_append (ps qs : List Path) (k : String) :
    first? (ps ++ qs) k = (first? ps k).or (first? qs k) :=
  List.find?_append

theorem first?_singleton_of_ne {p : Path} {k : String} (h : p.key ≠ k) : first? [p] k = none := by
  simp [first?, h]

theorem first?_singleton (p : Path) : first? [p] p.key = some p := by
  simp [first?]

theorem key_of_first? {ps : List Path} {k : String} {p : Path} (h : first? ps k = some p) :
    p ∈ ps ∧ p.key = k := by
  have hkey := List.find?_some h
  exact ⟨List.mem_of_find?_eq_some h, of_decide_eq_true hkey⟩

theorem isSome_first? {ps : List Path} {p : Path} (hp : p ∈ ps) : (first? ps p.key).isSome :=
  List.find?_isSome.mpr ⟨p, hp, decide_eq_true rfl⟩

/-- Each path is the first with its key exactly if no two of them share a key. -/
theorem map_first?_eq_map_some_iff {ps : List Path} :
    ps.map (first? ps ·.key) = ps.map some ↔ ∀ p ∈ ps, ∀ q ∈ ps, p.key = q.key → p = q := by
  rw [List.map_inj_left]
  constructor
  · intro h p hp q hq hkey
    have hpq : some p = some q := by rw [← h p hp, ← h q hq, hkey]
    exact Option.some.inj hpq
  · intro h p hp
    obtain ⟨q, hq⟩ := Option.isSome_iff_exists.mp (isSome_first? hp)
    obtain ⟨hmem, hkey⟩ := key_of_first? hq
    rw [hq, h q hmem p hp hkey]

end Path

/-! ## Entering paths -/

namespace PathTable

variable (t : PathTable) (p : Path)

/-- What a handle that is found denotes is the first path with the key. -/
theorem bind_get?_handle? : (t.handle? p).bind t.get? = Path.first? t.paths p.key := by
  rw [Path.first?, List.find?_eq_bind_findIdx?_getElem?, handle?, Option.bind_map]
  rfl

theorem prefix_intern : t.paths <+: (t.intern p).2.paths := by
  rw [intern]
  split
  · exact List.prefix_refl _
  · exact List.prefix_append _ _

/-- A handle that is found denotes the first path with the key, and there is one. -/
theorem first?_of_handle? {t : PathTable} {p : Path} {h : VariableHandle}
    (hh : t.handle? p = some h) : ∃ q, t.get? h = some q ∧ Path.first? t.paths p.key = some q := by
  obtain ⟨q, hq, -⟩ := get?_of_handle? hh
  rw [← bind_get?_handle?, hh, Option.bind_some]
  exact ⟨q, hq, hq⟩

/-- A path that is entered is found behind the others, if at all. -/
theorem first?_intern (k : String) :
    Path.first? (t.intern p).2.paths k = Path.first? (t.paths ++ [p]) k := by
  rw [intern]
  split
  · next h hh =>
    rw [Path.first?_append]
    by_cases hk : p.key = k
    · -- The key is there already, so the path would not be found.
      obtain ⟨q, -, hq⟩ := first?_of_handle? hh
      rw [← hk, hq, Option.some_or]
    · rw [Path.first?_singleton_of_ne hk, Option.or_none]
  · rfl

/-- The handle of a path denotes the first path with its key. -/
theorem get?_intern_eq_first? :
    (t.intern p).2.get? (t.intern p).1 = Path.first? (t.paths ++ [p]) p.key := by
  rw [Path.first?_append, intern]
  split
  · next h hh =>
    obtain ⟨q, hget, hq⟩ := first?_of_handle? hh
    rw [hget, hq, Option.some_or]
  · next hh =>
    rw [← bind_get?_handle?, hh, Option.bind_none, Option.none_or, Path.first?_singleton]
    exact List.getElem?_concat_length

/-- The paths are entered one after the other; their handles. -/
def internAll : List Path → PathTable → List VariableHandle × PathTable
  | [], t => ([], t)
  | p :: ps, t =>
    let (h, u) := t.intern p
    let (hs, v) := internAll ps u
    (h :: hs, v)

theorem prefix_internAll (ps : List Path) (t : PathTable) :
    t.paths <+: (internAll ps t).2.paths := by
  induction ps generalizing t with
  | nil => exact List.prefix_refl _
  | cons p ps ih => exact (prefix_intern t p).trans (ih (t.intern p).2)

/-- **What handles denote once all paths are entered**: each the first path with its key, among
those that were there and those that were entered. -/
theorem map_get?_internAll (ps : List Path) (t : PathTable) :
    (internAll ps t).1.map (internAll ps t).2.get? =
      ps.map (Path.first? (t.paths ++ ps) ·.key) := by
  induction ps generalizing t with
  | nil => rfl
  | cons p ps ih =>
    -- Whatever is looked for, the path entered now comes before those that follow.
    have hrest (k : String) :
        Path.first? ((t.intern p).2.paths ++ ps) k = Path.first? (t.paths ++ p :: ps) k := by
      rw [Path.first?_append, first?_intern, ← Path.first?_append, List.append_assoc,
        List.singleton_append]
    -- Its handle keeps its meaning while those are entered.
    have hhere : (internAll ps (t.intern p).2).2.get? (t.intern p).1 =
        Path.first? (t.paths ++ p :: ps) p.key := by
      obtain ⟨q, hq⟩ := Option.isSome_iff_exists.mp
        (Path.isSome_first? (List.mem_append_right t.paths (List.mem_singleton_self p)))
      have hhandle := (get?_intern_eq_first? t p).trans hq
      rw [get?_of_grows (prefix_internAll ps _) hhandle, ← List.singleton_append,
        ← List.append_assoc, Path.first?_append, hq, Option.some_or]
    simp only [internAll, List.map_cons, hhere, ih, hrest]

end PathTable

/-! ## Variables of a compilation -/

/-- Of the references that are entered, those to variables go into the table of paths, in order, and
the others leave it alone. -/
theorem Tables.Links.internAll_paths {r : Registry} {t u : Tables} {refs : List Reference}
    {hs : List Handle} (h : Tables.Links r t refs hs u) :
    PathTable.internAll (refs.filterMap Reference.path?) t.paths =
      (hs.filterMap Handle.variable?, u.paths) := by
  induction h with
  | nil t => rfl
  | @path t u refs hs p rest ih =>
    have hcons : (Reference.variable p :: refs).filterMap Reference.path? =
        p :: refs.filterMap Reference.path? := rfl
    rw [hcons, PathTable.internAll]
    exact congrArg (fun out => ((t.internPath p).1 :: out.1, out.2)) ih
  | @filter t _ _ _ _ f _ rest ih =>
    have hpaths : (t.internFilter f).2.paths = t.paths := by
      rw [Tables.internFilter]
      split <;> rfl
    rw [List.filterMap_cons_none rfl, List.filterMap_cons_none rfl, ← hpaths]
    exact ih

/-- **A compilation enters the variables of its template in order**, and the lookups of the program
are the handles that were given out for them. -/
theorem Template.internAll_paths {t : Template} {r : Registry} {c : CompileOptions}
    {name : Option String} {p : Program} (hcompile : t.compile r c name = .ok p) :
    PathTable.internAll t.paths {} = (p.lookups, p.tables.paths) := by
  obtain ⟨hlinks, hlookups⟩ := Template.links_compile hcompile
  rw [hlookups, Template.paths, Template.operands, ← Node.filterMap_path?_referencesAll]
  exact hlinks.internAll_paths

/-- **Lookups denote the variables they were made for exactly if these have distinct keys.** In any
case each lookup denotes the first variable of the template with the same key; and keys are distinct
if all variables are read from texts. -/
theorem lookups_denote_paths_iff {t : Template} {r : Registry} {c : CompileOptions}
    {name : Option String} {p : Program} (hcompile : t.compile r c name = .ok p) :
    p.lookups.map p.tables.paths.get? = t.paths.map (Path.first? t.paths ·.key) ∧
      (p.lookups.map p.tables.paths.get? = t.paths.map some ↔ t.KeysDistinct) ∧
      ((∀ q ∈ t.paths, ∃ s, Path.parse? s = some q) →
        p.lookups.map p.tables.paths.get? = t.paths.map some) := by
  have hdenote : p.lookups.map p.tables.paths.get? = t.paths.map (Path.first? t.paths ·.key) := by
    have hmap := PathTable.map_get?_internAll t.paths {}
    rwa [Template.internAll_paths hcompile] at hmap
  have hiff : p.lookups.map p.tables.paths.get? = t.paths.map some ↔ t.KeysDistinct := by
    rw [hdenote, Path.map_first?_eq_map_some_iff]
    rfl
  refine ⟨hdenote, hiff, fun hparse => hiff.mpr fun p hp q hq hkey => ?_⟩
  obtain ⟨s, hs⟩ := hparse p hp
  obtain ⟨s', hs'⟩ := hparse q hq
  exact Path.eq_of_key_eq_of_parse? hs hs' hkey

/-- A variable that occurs twice, once of them in a loop over another one: three paths are entered,
and all lookups denote their variables. -/
theorem lookups_denote_paths_loop :
    let t : Template := [
      .output ⟨⟨.variable ⟨"user", ["name"]⟩, none⟩, []⟩ none,
      .loop "i" ⟨⟨.variable ⟨"items", []⟩, none⟩, []⟩ [
        .output ⟨⟨.variable ⟨"user", ["name"]⟩, none⟩, []⟩ none,
        .output ⟨⟨.variable ⟨"i", ["0"]⟩, none⟩, []⟩ none] none none]
    ∃ p, t.compile .standard {} none = .ok p ∧ p.lookups = [⟨0⟩, ⟨1⟩, ⟨0⟩, ⟨2⟩] ∧
      (∀ q ∈ t.paths, ∃ s, Path.parse? s = some q) ∧
      p.lookups.map p.tables.paths.get? = t.paths.map some := by
  intro t
  have hparse : ∀ q ∈ t.paths, ∃ s, Path.parse? s = some q := by
    have hpaths : t.paths = [⟨"user", ["name"]⟩, ⟨"items", []⟩, ⟨"user", ["name"]⟩, ⟨"i", ["0"]⟩] :=
      rfl
    rw [hpaths]
    simp only [List.forall_mem_cons, List.not_mem_nil, IsEmpty.forall_iff, implies_true, and_true]
    exact ⟨⟨"user.name", by decide +kernel⟩, ⟨"items", by decide +kernel⟩,
      ⟨"user.name", by decide +kernel⟩, ⟨"i.0", by decide +kernel⟩⟩
  exact ⟨_, rfl, rfl, hparse, (lookups_denote_paths_iff (r := .standard) rfl).2.2 hparse⟩

/-- **A lookup may denote another variable than it was made for**: a segment with a dot gives a path
the key of another path, and with it that path's place in the table. -/
theorem lookup_denotes_other_path :
    ∃ flat nested : Path, Path.ofSegments? ["a.b"] = some flat ∧
      Path.ofSegments? ["a", "b"] = some nested ∧ flat ≠ nested ∧
      PathTable.internAll [flat, nested] {} = ([⟨0⟩, ⟨0⟩], ⟨[flat]⟩) ∧
      ∃ p, Template.compile [.output ⟨⟨.variable flat, none⟩, []⟩ none,
          .output ⟨⟨.variable nested, none⟩, []⟩ none] .standard {} none = .ok p ∧
        p.lookups.map p.tables.paths.get? = [some flat, some flat] :=
  ⟨⟨"a.b", []⟩, ⟨"a", ["b"]⟩, rfl, rfl, by decide, rfl, _, rfl, rfl⟩

end Stencil
