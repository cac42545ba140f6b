import Mathlib.Data.List.Induction
import Mathlib.Data.List.Nodup
import Stencil.Program.Execute
import Stencil.Proofs.Program.Sharing

/-!
# Handles are places, and places are used

The tables of a program grow while its template is compiled, so a handle that was given out early
stays a place of the tables, and keeps its meaning, until the end. Nothing is entered that the
template does not refer to, and nothing twice. Hence every handle of a program is a place of its
tables, however deep in the program it stands, and an execution never asks for what lies behind
them.

## Main definitions

* `Handle.Within t h`: the handle is a place of the tables
* `Handle.Denotes r t h ref`: the place holds what the reference refers to
* `Tables.Lists t seen`: the tables hold the keys and names of the references seen, each once, in
  the order in which they were met first

## Main results

* `Tables.Links.denotes`: the handles of references denote them once all are entered
* `Tables.Links.lists`: the tables list the references that were entered
* `Stmt.execAll_of_growsTo`: statements ask for nothing behind the places of their handles
* `handles_valid_tables_minimal`: all this of the program of a template
-/

namespace Stencil

/-! ## What handles denote -/

/-- The handle is a place of the tables. -/
def Handle.Within (t : Tables) : Handle → Prop
  | .variable h => h.index < t.paths.paths.length
  | .filter h => h.index < t.filters.length

/-- The place of the handle holds what is referred to: a path with the key of the variable, or the
filter that the registry has under the name. -/
def Handle.Denotes (r : Registry) (t : Tables) : Handle → Reference → Prop
  | .variable h, .variable p => ∃ q, t.paths.get? h = some q ∧ q.key = p.key
  | .filter h, .filter name => ∃ f, t.filter? h = some f ∧ r.get? name = some f
  | _, _ => False

namespace Handle.Denotes

variable {r : Registry} {t u : Tables} {h : Handle} {ref : Reference}

theorem within (hd : h.Denotes r t ref) : h.Within t := by
  rcases h with h | h <;> rcases ref with p | name
  · obtain ⟨q, hq, -⟩ := hd
    exact (List.getElem?_eq_some_iff.mp hq).1
  · cases hd
  · cases hd
  · obtain ⟨f, hf, -⟩ := hd
    exact (List.getElem?_eq_some_iff.mp hf).1

/-- A handle keeps its meaning while the tables grow. -/
theorem of_growsTo (hd : h.Denotes r t ref) (hgrows : t.GrowsTo u) : h.Denotes r u ref := by
  rcases h with h | h <;> rcases ref with p | name
  · obtain ⟨q, hq, hkey⟩ := hd
    exact ⟨q, hgrows.get?_paths hq, hkey⟩
  · cases hd
  · cases hd
  · obtain ⟨f, hf, hget⟩ := hd
    exact ⟨f, hgrows.filter? hf, hget⟩

end Handle.Denotes

namespace Tables

variable (t : Tables)

theorem growsTo_internPath (p : Path) : t.GrowsTo (t.internPath p).2 :=
  ⟨t.paths.prefix_intern p, List.prefix_refl _⟩

theorem growsTo_internFilter (f : Filter) : t.GrowsTo (t.internFilter f).2 := by
  rw [internFilter]
  split
  · exact .refl t
  · exact ⟨List.prefix_refl _, List.prefix_append _ _⟩

variable {t} {r : Registry} {u : Tables} {refs : List Reference} {hs : List Handle}

theorem Links.growsTo (h : Links r t refs hs u) : t.GrowsTo u := by
  induction h with
  | nil t => exact .refl t
  | path p rest ih => exact (growsTo_internPath _ p).trans ih
  | filter found rest ih => exact (growsTo_internFilter _ _).trans ih

/-- **The handles of references denote them once all are entered**, if the filters that were there
before come from the registry. -/
theorem Links.denotes (h : Links r t refs hs u) (ht : t.Sound (fun _ => True) r) :
    List.Forall₂ (Handle.Denotes r u) hs refs := by
  induction h with
  | nil t => exact .nil
  | @path t u refs hs p rest ih =>
    obtain ⟨q, hq, hkey⟩ := t.paths.get?_intern p
    -- The place is right from now on, since the tables that follow have grown from these.
    have hnow : (Handle.variable (t.internPath p).1).Denotes r (t.internPath p).2 (.variable p) :=
      ⟨q, hq, hkey⟩
    exact .cons (hnow.of_growsTo rest.growsTo) (ih ⟨fun _ _ => trivial, ht.filters⟩)
  | @filter t u refs hs name f found rest ih =>
    -- A filter that has the name already is the same one: both come from the registry.
    have hname : r.get? f.name = some f := by rwa [Registry.name_of_get? found]
    obtain ⟨hsound, -, hget⟩ := internFilter_spec ht hname
    have hnow : (Handle.filter (t.internFilter f).1).Denotes r (t.internFilter f).2
        (.filter name) := ⟨f, hget, found⟩
    exact .cons (hnow.of_growsTo rest.growsTo) (ih hsound)

end Tables

/-! ## What tables hold -/

section Duplicates

variable {α : Type} [BEq α] [LawfulBEq α] {a : α} {l : List α}

theorem eraseDups_concat_of_mem (h : a ∈ l) : (l ++ [a]).eraseDups = l.eraseDups := by
  rw [List.eraseDups_append]
  have hrest : [a].removeAll l = [] := by simp [List.removeAll, h]
  rw [hrest, List.eraseDups_nil, List.append_nil]

theorem eraseDups_concat_of_not_mem (h : a ∉ l) : (l ++ [a]).eraseDups = l.eraseDups ++ [a] := by
  rw [List.eraseDups_append]
  have hrest : [a].removeAll l = [a] := by simp [List.removeAll, h]
  rw [hrest]
  rfl

theorem nodup_eraseDups (l : List α) : l.eraseDups.Nodup := by
  induction l using List.reverseRecOn with
  | nil => exact List.nodup_nil
  | append_singleton l a ih =>
    by_cases h : a ∈ l
    · rwa [eraseDups_concat_of_mem h]
    · rw [eraseDups_concat_of_not_mem h, ← List.concat_eq_append]
      exact ih.concat fun hmem => h (List.mem_eraseDups.mp hmem)

end Duplicates

/-- Where a list has the keys seen so far, each once, it has those seen then behind an entry that is
added if its key is new. -/
theorem map_add_eq_eraseDups {α : Type} {key : α → String} {l : List α} {seen : List String}
    (hl : l.map key = seen.eraseDups) (a : α) :
    (if (l.findIdx? (key · = key a)).isSome then l else l ++ [a]).map key =
      (seen ++ [key a]).eraseDups := by
  -- The key is found in the list if, and only if, it has been seen.
  have hiff : (l.findIdx? (key · = key a)).isSome = true ↔ key a ∈ seen := by
    rw [List.findIdx?_isSome, ← List.mem_eraseDups, ← hl]
    simp
  split
  · next hfound => rw [eraseDups_concat_of_mem (hiff.mp hfound), hl]
  · next hnew => rw [eraseDups_concat_of_not_mem (mt hiff.mpr hnew), List.map_append, hl]; rfl

theorem PathTable.map_key_intern {t : PathTable} {seen : List String}
    (ht : t.paths.map Path.key = seen.eraseDups) (p : Path) :
    (t.intern p).2.paths.map Path.key = (seen ++ [p.key]).eraseDups := by
  rw [← map_add_eq_eraseDups ht p, intern, handle?]
  cases t.paths.findIdx? (·.key = p.key) <;> rfl

theorem Tables.map_name_internFilter {t : Tables} {seen : List String}
    (ht : t.filters.map Filter.name = seen.eraseDups) (f : Filter) :
    (t.internFilter f).2.filters.map Filter.name = (seen ++ [f.name]).eraseDups := by
  rw [← map_add_eq_eraseDups ht f, internFilter]
  cases t.filters.findIdx? (·.name = f.name) <;> rfl

/-- The tables hold the keys and the names of the references seen so far, each once, in the order in
which they were met first. -/
structure Tables.Lists (t : Tables) (seen : List Reference) : Prop where
  keys : t.paths.paths.map Path.key = ((seen.filterMap Reference.path?).map Path.key).eraseDups
  names : t.filters.map Filter.name = (seen.filterMap Reference.filterName?).eraseDups

namespace Tables.Lists

variable {t : Tables} {seen : List Reference}

theorem empty : Lists {} [] := ⟨rfl, rfl⟩

theorem internPath (h : t.Lists seen) (p : Path) :
    (t.internPath p).2.Lists (seen ++ [.variable p]) := by
  constructor
  · rw [List.filterMap_append, List.map_append]
    exact PathTable.map_key_intern h.keys p
  · -- A path is no name of a filter, and the filters stay as they are.
    rw [List.filterMap_append]
    exact h.names.trans (congrArg List.eraseDups (List.append_nil _).symm)

theorem internFilter (h : t.Lists seen) (f : Filter) :
    (t.internFilter f).2.Lists (seen ++ [.filter f.name]) := by
  constructor
  · have hpaths : (t.internFilter f).2.paths = t.paths := by
      rw [Tables.internFilter]
      split <;> rfl
    rw [hpaths, List.filterMap_append, List.map_append]
    exact h.keys.trans (congrArg List.eraseDups (List.append_nil _).symm)
  · rw [List.filterMap_append]
    exact Tables.map_name_internFilter h.names f

end Tables.Lists

/-- **The tables list the references that were entered**, behind those that they listed before. -/
theorem Tables.Links.lists {r : Registry} {t u : Tables} {refs seen : List Reference}
    {hs : List Handle} (h : Links r t refs hs u) (ht : t.Lists seen) : u.Lists (seen ++ refs) := by
  induction h generalizing seen with
  | nil t => rwa [List.append_nil]
  | path p rest ih =>
    -- The reference at hand is the last one seen when the rest is entered.
    rw [← List.singleton_append, ← List.append_assoc]
    exact ih (ht.internPath p)
  | filter found rest ih =>
    rw [← List.singleton_append, ← List.append_assoc, ← Registry.name_of_get? found]
    exact ih (ht.internFilter _)

/-! ## What an execution asks for -/

namespace Tables.GrowsTo

variable {t u : Tables}

theorem get?_paths_eq (hgrows : t.GrowsTo u) {h : VariableHandle}
    (hh : (Handle.variable h).Within t) : u.paths.get? h = t.paths.get? h :=
  (List.prefix_iff_getElem?.mp hgrows.paths h.index hh).trans (List.getElem?_eq_getElem hh).symm

theorem filter?_eq (hgrows : t.GrowsTo u) {h : FilterHandle} (hh : (Handle.filter h).Within t) :
    u.filter? h = t.filter? h :=
  (List.prefix_iff_getElem?.mp hgrows.filters h.index hh).trans (List.getElem?_eq_getElem hh).symm

end Tables.GrowsTo

section Execution

variable {t u : Tables}

mutual

/-- An expression asks for nothing behind the places of its handles. -/
theorem Expr.eval_of_growsTo (hgrows : t.GrowsTo u) (e : Expr) (he : ∀ h ∈ e.handles, h.Within t) :
    e.eval u = e.eval t := by
  match e with
  | .literal v pos => rfl
  | .resolve h pos =>
    have hh : (Handle.variable h).Within t := he _ (by simp [Expr.handles])
    simp only [Expr.eval, Tables.evalVariable, hgrows.get?_paths_eq hh]
  | .tryResolve h fallback pos =>
    have hh : (Handle.variable h).Within t := he _ (by simp [Expr.handles])
    have hfallback := Expr.evalOpt_of_growsTo hgrows fallback fun x hx =>
      he x (by simp [Expr.handles, hx])
    simp only [Expr.eval, Tables.evalVariableOr, hgrows.get?_paths_eq hh, hfallback]
  | .filter h input arg pos =>
    have hh : (Handle.filter h).Within t := he _ (by simp [Expr.handles])
    have hinput := Expr.eval_of_growsTo hgrows input fun x hx => he x (by simp [Expr.handles, hx])
    have harg := Expr.evalOpt_of_growsTo hgrows arg fun x hx => he x (by simp [Expr.handles, hx])
    simp only [Expr.eval, Tables.callFilter, hgrows.filter?_eq hh, hinput, harg]
  | .not e pos =>
    have hinner := Expr.eval_of_growsTo hgrows e fun x hx => he x (by simp [Expr.handles, hx])
    simp only [Expr.eval, hinner]

theorem Expr.evalOpt_of_growsTo (hgrows : t.GrowsTo u) (e : Option Expr)
    (he : ∀ h ∈ Expr.handlesOpt e, h.Within t) : Expr.evalOpt u e = Expr.evalOpt t e := by
  match e with
  | none => rfl
  | some e =>
    rw [Expr.handlesOpt] at he
    rw [Expr.evalOpt, Expr.evalOpt, Expr.eval_of_growsTo hgrows e he]

end

variable (o : Options)

mutual

theorem Stmt.exec_of_growsTo (hgrows : t.GrowsTo u) (s : Stmt) (hs : ∀ h ∈ s.handles, h.Within t) :
    s.exec u o = s.exec t o := by
  match s with
  | .text content pos => rfl
  | .emit e pos =>
    rw [Stmt.handles] at hs
    rw [Stmt.exec, Stmt.exec, Expr.eval_of_growsTo hgrows e hs]
  | .conditional arms pos =>
    rw [Stmt.handles] at hs
    rw [Stmt.exec, Stmt.exec, Arms.exec_of_growsTo hgrows arms hs]
  | .loop binding iterable body empty pos =>
    rw [Stmt.handles] at hs
    have hiterable := Expr.eval_of_growsTo hgrows iterable fun x hx => hs x (by simp [hx])
    have hbody := Stmt.execAll_of_growsTo hgrows body fun x hx => hs x (by simp [hx])
    have hempty := Stmt.execAll_of_growsTo hgrows empty fun x hx => hs x (by simp [hx])
    simp only [Stmt.exec, Expr.evalItems, hiterable, hbody, hempty]

/-- **Statements ask for nothing behind the places of their handles**: whatever is added there, they
have the same effect. -/
theorem Stmt.execAll_of_growsTo (hgrows : t.GrowsTo u) (ss : List Stmt)
    (hss : ∀ h ∈ Stmt.handlesAll ss, h.Within t) :
    Stmt.execAll u o ss = Stmt.execAll t o ss := by
  match ss with
  | [] => rfl
  | s :: rest =>
    rw [Stmt.handlesAll] at hss
    have hfirst := Stmt.exec_of_growsTo hgrows s fun x hx => hss x (by simp [hx])
    have hrest := Stmt.execAll_of_growsTo hgrows rest fun x hx => hss x (by simp [hx])
    rw [Stmt.execAll, Stmt.execAll, hfirst, hrest]

theorem Arms.exec_of_growsTo (hgrows : t.GrowsTo u) (arms : Arms)
    (harms : ∀ h ∈ arms.handles, h.Within t) : arms.exec u o = arms.exec t o := by
  match arms with
  | .otherwise body =>
    rw [Arms.handles] at harms
    rw [Arms.exec, Arms.exec, Stmt.execAll_of_growsTo hgrows body harms]
  | .arm test body rest =>
    rw [Arms.handles] at harms
    have htest := Expr.eval_of_growsTo hgrows test fun x hx => harms x (by simp [hx])
    have hbody := Stmt.execAll_of_growsTo hgrows body fun x hx => harms x (by simp [hx])
    have hrest := Arms.exec_of_growsTo hgrows rest fun x hx => harms x (by simp [hx])
    rw [Arms.exec, Arms.exec, htest, hbody, hrest]

end

end Execution

/-! ## Programs -/

/-- **Handles are valid and tables are minimal.** For every template that compiles:

* every handle of the program, wherever it stands, is a place of the tables, and so an execution is
  the same whatever is added behind them;
* the handles correspond one by one to the references of the template, and each denotes a path with
  the key, or the filter that the registry has under the name, that is referred to;
* the keys of the table of paths are the keys of the variables of the template and the names of the
  table of filters are the names that it calls, each once and in the order of first occurrence. -/
theorem handles_valid_tables_minimal {t : Template} {r : Registry} {c : CompileOptions}
    {name : Option String} {p : Program} (hcompile : t.compile r c name = .ok p) :
    (∀ h ∈ p.handles, h.Within p.tables) ∧
      (∀ u, p.tables.GrowsTo u → ∀ o, Stmt.execAll u o p.body = p.execute o) ∧
      List.Forall₂ (Handle.Denotes r p.tables) p.handles t.references ∧
      p.tables.paths.paths.map Path.key = (t.paths.map Path.key).eraseDups ∧
      (p.tables.paths.paths.map Path.key).Nodup ∧
      p.tables.filters.map Filter.name = t.filterNames.eraseDups ∧
      (p.tables.filters.map Filter.name).Nodup := by
  obtain ⟨hlinks, -⟩ := Template.links_compile hcompile
  have hdenotes := hlinks.denotes Tables.sound_empty
  obtain ⟨hkeys, hnames⟩ : p.tables.Lists t.references := hlinks.lists .empty
  have hpaths : t.references.filterMap Reference.path? = t.paths :=
    Node.filterMap_path?_referencesAll t
  rw [hpaths] at hkeys
  -- A handle that denotes something is a place in the tables.
  have hwithin : ∀ h ∈ p.handles, h.Within p.tables :=
    ((List.forall₂_and_left _ _).mp (hdenotes.imp fun _ _ hd => ⟨hd.within, hd⟩)).1
  refine ⟨hwithin, fun u hu o => Stmt.execAll_of_growsTo o hu p.body hwithin, hdenotes, hkeys, ?_,
    hnames, ?_⟩
  · rw [hkeys]
    exact nodup_eraseDups _
  · rw [hnames]
    exact nodup_eraseDups _

/-- Three variables and three filters, some of them referred to again in a loop and in what stands
for the lack of items: each has one place in the tables, and all handles are below three. -/
theorem handles_valid_tables_minimal_loop :
    let user : Operand := ⟨.variable ⟨"user", ["name"]⟩, none⟩
    let t : Template := [
      .output ⟨user, [⟨"upper", none, none⟩]⟩ none,
      .loop "i" ⟨⟨.variable ⟨"items", []⟩, none⟩, []⟩ [
        .output ⟨⟨.variable ⟨"i", []⟩, none⟩,
          [⟨"default", some user, none⟩, ⟨"upper", none, none⟩]⟩ none]
        (some [.output ⟨user, [⟨"lower", none, none⟩]⟩ none]) none]
    ∃ p, t.compile .standard {} none = .ok p ∧
      p.handles = [.variable ⟨0⟩, .filter ⟨0⟩, .variable ⟨1⟩, .variable ⟨2⟩, .filter ⟨1⟩,
        .variable ⟨0⟩, .filter ⟨0⟩, .variable ⟨0⟩, .filter ⟨2⟩] ∧
      (∀ h ∈ p.handles, h.Within p.tables) ∧
      List.Forall₂ (Handle.Denotes .standard p.tables) p.handles t.references ∧
      p.tables.paths.paths.map Path.key = ["user.name", "items", "i"] ∧
      p.tables.filters.map Filter.name = ["upper", "default", "lower"] := by
  intro user t
  have hcompile : ∃ p, t.compile .standard {} none = .ok p := ⟨_, rfl⟩
  obtain ⟨p, hp⟩ := hcompile
  obtain ⟨hwithin, -, hdenotes, hkeys, -, hnames, -⟩ := handles_valid_tables_minimal hp
  refine ⟨p, hp, ?_, hwithin, hdenotes, hkeys, hnames⟩
  obtain rfl := Except.ok.inj hp
  rfl

end Stencil
