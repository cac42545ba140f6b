import Stencil.Proofs.Program.Calls
import Stencil.Proofs.Program.Validity
import Stencil.Proofs.Template.Renaming

/-!
# Programs of templates whose variables share keys

Variables with the same key share a place in the tables of a program, and what is looked up there is
the first of them. So the program is that of another template, too, in which each variable has been
replaced by the first one with its key. In that template no two variables share a key, and the
program does what it does. Hence whatever is known of renderings holds of the executions of all
programs, whether the keys of their templates are distinct or not.

## Main definitions

* `Path.leader ps p`: the first of the paths with the key of `p`
* `Tables.leader T`, `Template.leader t`: the first path of tables, and the first variable of a
  template, with the key of a given one
* `CompileM.Follows T x y`: `y` does what `x` does, as long as the tables grow to `T`

## Main results

* `PathTable.intern_leader`: a path is entered where the first path with its key is
* `Template.compile_rename_leader`: merging variables with the same key makes no other program
* `Template.execute_eq_renderAllWith`: every program does what a template does
-/

namespace Stencil

variable {α β : Type}

/-! ## First variables -/

namespace Path

/-- The first of the paths with the key of `p`; it is `p` itself if there is none. -/
def leader (ps : List Path) (p : Path) : Path :=
  (first? ps p.key).getD p

theorem key_leader (ps : List Path) (p : Path) : (leader ps p).key = p.key := by
  rw [leader]
  cases h : first? ps p.key with
  | none => rfl
  | some q => exact (key_of_first? h).2

end Path

/-- The first path of the tables with the key of `p`; it is `p` itself if there is none. -/
def Tables.leader (T : Tables) : Path → Path :=
  Path.leader T.paths.paths

/-- The first variable of the template with the key of `p`; it is `p` itself if there is none. -/
def Template.leader (t : Template) : Path → Path :=
  Path.leader t.paths

/-- Where no two variables share a key, each is the first with its key. -/
theorem Template.KeysDistinct.leader_eq_self {t : Template} (h : t.KeysDistinct) {p : Path}
    (hp : p ∈ t.paths) : t.leader p = p := by
  have hfirst := List.map_inj_left.mp (Path.map_first?_eq_map_some_iff.mpr h) p hp
  rw [Template.leader, Path.leader, hfirst, Option.getD_some]

/-- **The variables of a template with other variables.** -/
theorem Template.paths_rename (look : Path → Path) (t : Template) :
    (t.rename look).paths = t.paths.map look := by
  have hpath (x : Operand) : (x.rename look).term.path? = x.term.path?.map look := by
    rcases x with ⟨v | p, pos⟩ <;> rfl
  rw [Template.paths, Template.paths, Template.operands, Template.rename,
    Node.operandsAll_renameAll, List.filterMap_map, List.map_filterMap]
  exact List.filterMap_congr fun x _ => hpath x

/-- **No two variables share a key** once each is replaced by the first one with its key. -/
theorem Template.keysDistinct_rename_leader (t : Template) : (t.rename t.leader).KeysDistinct := by
  rw [Template.KeysDistinct, Template.paths_rename]
  simp only [List.forall_mem_map]
  intro p hp q _ hkey
  rw [Template.leader, Path.key_leader, Path.key_leader] at hkey
  -- There is a first variable with the key, and it is found by the key alone.
  obtain ⟨first, hfirst⟩ := Option.isSome_iff_exists.mp (Path.isSome_first? hp)
  rw [Template.leader, Path.leader, Path.leader, ← hkey, hfirst, Option.getD_some,
    Option.getD_some]

namespace PathTable

/-- **A path is entered where the first path with its key is**: the two get the same handle, and
leave the same table. -/
theorem intern_leader {t : PathTable} {ps : List Path} {p : Path}
    (h : (t.intern p).2.paths <+: ps) : t.intern (Path.leader ps p) = t.intern p := by
  cases hh : t.handle? p with
  | some handle =>
    -- The key is there already, and more of a path is not looked at.
    have hhandle : t.handle? (Path.leader ps p) = some handle := by
      rw [← hh, handle?, handle?, Path.key_leader]
    rw [intern, intern, hhandle, hh]
  | none =>
    -- The path is entered now, so it is the first one itself.
    rw [intern, hh] at h
    obtain ⟨rest, rfl⟩ := h
    have hnew : Path.first? t.paths p.key = none := by
      rw [← bind_get?_handle?, hh, Option.bind_none]
    rw [Path.leader, Path.first?_append, Path.first?_append, hnew, Option.none_or,
      Path.first?_singleton, Option.some_or, Option.getD_some]

/-- What is found by key in the table is what is found in the paths that were entered. -/
theorem first?_internAll (ps : List Path) (t : PathTable) (k : String) :
    Path.first? (internAll ps t).2.paths k = Path.first? (t.paths ++ ps) k := by
  induction ps generalizing t with
  | nil => rw [internAll, List.append_nil]
  | cons p ps ih =>
    rw [← List.singleton_append, ← List.append_assoc, Path.first?_append, ← first?_intern,
      ← Path.first?_append]
    exact ih (t.intern p).2

end PathTable

/-! ## Compilations that follow one another -/

/-- Wherever `x` succeeds, the tables grow; and as long as they grow to `T` afterwards, `y` does the
same. -/
def CompileM.Follows (T : Tables) (x y : CompileM α) : Prop :=
  ∀ t a t', x t = .ok (a, t') → t.GrowsTo t' ∧ (t'.GrowsTo T → y t = .ok (a, t'))

namespace CompileM.Follows

variable {T : Tables}

theorem pure (a : α) : Follows T (Pure.pure a) (Pure.pure a) := by
  intro t b t' h
  obtain ⟨rfl, rfl⟩ := Prod.mk.inj (Except.ok.inj h)
  exact ⟨.refl t, fun _ => rfl⟩

theorem ofExcept (result : Except CompileError α) :
    Follows T (CompileM.ofExcept result) (CompileM.ofExcept result) := by
  cases result with
  | ok a => exact .pure a
  | error e =>
    intro t b t' h
    cases h

theorem internFilter (f : Filter) :
    Follows T (CompileM.enter (·.internFilter f)) (CompileM.enter (·.internFilter f)) := by
  intro t handle t' h
  obtain ⟨rfl, rfl⟩ := Prod.mk.inj (Except.ok.inj h)
  exact ⟨t.growsTo_internFilter f, fun _ => rfl⟩

/-- A variable may be entered in place of the others with its key, if it will be the first. -/
theorem resolve (p : Path) (mode : Resolution) :
    Follows T (CompileM.enter (·.resolve p mode))
      (CompileM.enter (·.resolve (T.leader p) mode)) := by
  intro t e t' h
  rw [CompileM.enter, Tables.resolve_eq] at h
  obtain ⟨rfl, rfl⟩ := Prod.mk.inj (Except.ok.inj h)
  refine ⟨t.growsTo_internPath p, fun hgrows => ?_⟩
  have hintern : t.internPath (T.leader p) = t.internPath p := by
    rw [Tables.internPath, Tables.internPath, Tables.leader, PathTable.intern_leader hgrows.paths]
  rw [CompileM.enter, Tables.resolve_eq, hintern]

theorem bind {x y : CompileM α} {f g : α → CompileM β} (hxy : Follows T x y)
    (hfg : ∀ a, Follows T (f a) (g a)) : Follows T (x >>= f) (y >>= g) := by
  intro t b t' h
  simp only [Bind.bind] at h ⊢
  split at h
  · next a u hu =>
    obtain ⟨hgrows, hy⟩ := hxy t a u hu
    obtain ⟨hgrows', hg⟩ := hfg a u b t' h
    refine ⟨hgrows.trans hgrows', fun hT => ?_⟩
    rw [hy (hgrows'.trans hT)]
    exact hg hT
  · cases h

end CompileM.Follows

open CompileM (Follows)

section Same

variable (look : Path → Path)

theorem FilterCall.check_rename (r : Registry) (call : FilterCall) :
    (call.rename look).check r = call.check r := by
  rw [FilterCall.check, FilterCall.check, FilterCall.isSome_arg_rename, FilterCall.name_rename,
    FilterCall.pos_rename]

theorem FilterCall.fallback?_rename (call : FilterCall) :
    (call.rename look).fallback? = call.fallback? := by
  rcases call with ⟨name, _ | ⟨v | p, pos⟩, callPos⟩ <;> rfl

theorem CompileOptions.outputMode_rename (c : CompileOptions) (e : FilterExpr) :
    c.outputMode (e.rename look) = c.outputMode e := by
  rcases e with ⟨base, _ | ⟨call, rest⟩⟩
  · rfl
  · simp only [CompileOptions.outputMode, FilterExpr.fallback?, FilterExpr.rename, List.map_cons,
      List.head?_cons, Option.bind_some, FilterCall.fallback?_rename]

end Same

section Renamed

variable {T : Tables}

theorem Operand.follows_compile (mode : Resolution) (x : Operand) :
    Follows T (x.compile mode) ((x.rename (T.leader)).compile mode) := by
  rcases x with ⟨v | p, pos⟩
  · exact .pure _
  · exact .bind (.resolve p mode) fun e => .pure _

variable (r : Registry)

theorem FilterCall.follows_compile (call : FilterCall) (input : Expr) :
    Follows T (call.compile r input)
      ((call.rename (T.leader)).compile r input) := by
  have harg : Follows T call.compileArg (call.rename (T.leader)).compileArg := by
    rcases call with ⟨name, _ | x, pos⟩
    · exact .pure _
    · exact .bind (x.follows_compile .strict) fun e => .pure _
  rw [FilterCall.compile, FilterCall.compile, FilterCall.check_rename]
  exact .bind (.ofExcept _) fun f => .bind (.internFilter f) fun handle => .bind harg fun arg =>
    .pure _

theorem FilterCall.follows_compileAll (calls : List FilterCall) (input : Expr) :
    Follows T (FilterCall.compileAll r calls input)
      (FilterCall.compileAll r (calls.map (FilterCall.rename (T.leader))) input) := by
  induction calls generalizing input with
  | nil => exact .pure _
  | cons call rest ih => exact .bind (call.follows_compile r input) ih

theorem FilterExpr.follows_compile (mode : Resolution) (e : FilterExpr) :
    Follows T (e.compile r mode) ((e.rename (T.leader)).compile r mode) :=
  .bind (e.base.follows_compile mode) (FilterCall.follows_compileAll r e.filters)

variable (c : CompileOptions)

mutual

theorem Node.follows_compile (n : Node) :
    Follows T (n.compile r c) ((n.rename (T.leader)).compile r c) := by
  match n with
  | .text content pos => exact .pure _
  | .comment pos => exact .pure _
  | .output expr pos =>
    rw [Node.rename, Node.compile, Node.compile, CompileOptions.outputMode_rename]
    exact .bind (expr.follows_compile r _) fun e => .pure _
  | .conditional branches pos =>
    exact .bind (Branches.follows_compile branches) fun arms => .pure _
  | .loop binding iterable body empty pos =>
    refine .bind (iterable.follows_compile r _) fun e => ?_
    refine .bind (Node.follows_compileAll body) fun inner => ?_
    exact .bind (Node.follows_compileOpt empty) fun lacking => .pure _
  | .filtered call body pos => exact .ofExcept (.error _)

/-- **Nodes are compiled alike** once their variables are replaced by the first ones of the tables
to come. -/
theorem Node.follows_compileAll (ns : List Node) :
    Follows T (Node.compileAll r c ns)
      (Node.compileAll r c (Node.renameAll (T.leader) ns)) := by
  match ns with
  | [] => exact .pure _
  | n :: rest =>
    refine .bind (Node.follows_compile n) fun stmt => ?_
    exact .bind (Node.follows_compileAll rest) fun stmts => .pure _

theorem Node.follows_compileOpt (ns : Option (List Node)) :
    Follows T (Node.compileOpt r c ns)
      (Node.compileOpt r c (Node.renameOpt (T.leader) ns)) := by
  match ns with
  | none => exact .pure _
  | some body => exact Node.follows_compileAll body

theorem Branches.follows_compile (b : Branches) :
    Follows T (b.compile r c) ((b.rename (T.leader)).compile r c) := by
  match b with
  | .none => exact .pure _
  | .otherwise body => exact .bind (Node.follows_compileAll body) fun inner => .pure _
  | .when test body rest =>
    refine .bind (.bind (test.test.follows_compile r _) fun e => .pure _) fun e => ?_
    refine .bind (Node.follows_compileAll body) fun inner => ?_
    exact .bind (Branches.follows_compile rest) fun arms => .pure _

end

end Renamed

/-! ## Programs -/

section Compiled

variable {t : Template} {r : Registry} {c : CompileOptions} {name : Option String} {p : Program}

/-- **Merging variables with the same key makes no other program.** -/
theorem Template.compile_rename_leader (hcompile : t.compile r c name = .ok p) :
    (t.rename t.leader).compile r c name = .ok p := by
  -- The tables in the end know the same first variables as the template.
  have hleader : t.leader = p.tables.leader := by
    funext q
    have hfirst := PathTable.first?_internAll t.paths {} q.key
    rw [Template.internAll_paths hcompile] at hfirst
    rw [Template.leader, Tables.leader, Path.leader, Path.leader, hfirst]
    rfl
  rw [hleader]
  obtain ⟨hname, hbody⟩ := Template.compile_eq_ok_iff.mp hcompile
  obtain ⟨-, hmerged⟩ := Node.follows_compileAll r c t {} p.body p.tables hbody
  exact Template.compile_eq_ok_iff.mpr ⟨hname, hmerged (.refl p.tables)⟩

/-- **Every program does what a template does**: the one it was compiled from, once each variable is
replaced by the first one with its key. -/
theorem Template.execute_eq_renderAllWith (hcompile : t.compile r c name = .ok p) (o : Options) :
    p.execute o = Node.renderAllWith (c.evalOutput r) r o (t.rename t.leader) :=
  (Template.simulates_execute t.keysDistinct_rename_leader
    (Template.compile_rename_leader hcompile) (fun _ => rfl) (fun _ _ => .of_eq rfl) o
    fun _ => trivial).eq

end Compiled

end Stencil
