import Stencil.Engine.Error
import Stencil.Program.Compile
import Stencil.Program.Execute
import Stencil.Render.Tree
import Stencil.Template.Parse

/-!
# The engine

An engine keeps sources under names. A template is loaded when it is first asked for: it is parsed
and compiled, or kept as a tree if it cannot be compiled and the options allow it. What was loaded
is kept until the source is replaced.

## Main definitions

* `Loaded`: a template that is ready to be rendered
* `Load`: what was loaded, with the number of the load
* `Engine`: sources, and what was loaded from them
* `Engine.add`, `Engine.get`, `Engine.render`, `Engine.renderTree`
* `renderSource`: from a source to its output in one step
-/

namespace Stencil

/-- The output of a step from the given state on, with the state behind it. -/
def RenderM.outcome (x : RenderM Unit) (s : Run) : Except TemplateError String × Run :=
  match x s with
  | (.ok (), t) => (.ok t.output, t)
  | (.error e, t) => (.error (.render e), t)

/-- A template that is ready to be rendered. -/
inductive Loaded where
  | compiled (p : Program)
  | tree (name : String) (t : Template)

namespace Loaded

/-- Whether a template was compiled. -/
def isCompiled : Loaded → Bool
  | compiled _ => true
  | tree _ _ => false

/-- The output of a template. -/
def render (l : Loaded) (r : Registry) (o : Options) : RenderM Unit :=
  match l with
  | compiled p => p.execute o
  | tree _ t => t.render r o

end Loaded

/-- What was loaded, with the number of the load: two loads are the same if their numbers are. -/
structure Load where
  loaded : Loaded
  number : Nat

/-- Sources under names, and what was loaded from them. -/
structure Engine where
  registry : Registry
  options : CompileOptions
  sources : Bindings String := .empty
  cache : Bindings Load := .empty
  /-- How often something was loaded. -/
  loads : Nat := 0

namespace Engine

/-- Add a source, or replace the source of that name and drop what was loaded from the old one. -/
def add (g : Engine) (name source : String) : Engine :=
  { g with sources := g.sources.insert name source, cache := g.cache.erase name }

/-- The template of a source, under a name. -/
def parse (name source : String) : Except LoadError Template :=
  match Template.parse source with
  | .ok t => .ok t
  | .error e => .error (.parse name e)

/-- What is loaded from a source, under a name. -/
def load (g : Engine) (name source : String) : Except LoadError Loaded :=
  match parse name source with
  | .error e => .error e
  | .ok t =>
    match t.compile g.registry g.options (some name) with
    | .ok p => .ok (.compiled p)
    | .error e =>
      -- A wrong name or argument is an error in either form; only a construct falls back.
      if e.isUnsupported && g.options.keepTrees then
        .ok (.tree name t)
      else
        .error (.compile name e)

/-- The source under a name. -/
def source (g : Engine) (name : String) : Except LoadError String :=
  match g.sources.get? name with
  | some source => .ok source
  | none => .error (.notFound name)

/-- What is loaded under a name, at once or from before. Requests come one after another, so the
source cannot have been replaced while it was loaded: what is loaded is always current, and kept. -/
def get (g : Engine) (name : String) : Except LoadError Load × Engine :=
  match g.cache.get? name with
  | some found => (.ok found, g)
  | none =>
    match g.source name with
    | .error e => (.error e, g)
    | .ok source =>
      match g.load name source with
      | .error e => (.error e, g)
      | .ok loaded =>
        let fresh : Load := ⟨loaded, g.loads⟩
        (.ok fresh, { g with cache := g.cache.insert name fresh, loads := g.loads + 1 })

/-- The output of the template under a name, which is loaded if need be. -/
def render (g : Engine) (name : String) (o : Options) (s : Run) :
    (Except TemplateError String × Run) × Engine :=
  match g.get name with
  | (.error e, g) => ((.error (.load e), s), g)
  | (.ok found, g) => ((found.loaded.render g.registry o).outcome s, g)

/-- The output of the tree under a name, without regard to what was loaded. -/
def renderTree (g : Engine) (name : String) (o : Options) (s : Run) :
    Except TemplateError String × Run :=
  match (g.source name).bind (parse name) with
  | .error e => (.error (.load e), s)
  | .ok t => (t.render g.registry o).outcome s

end Engine

/-- The output of a source, which is parsed, compiled and executed. -/
def renderSource (source : String) (r : Registry) (o : Options) (s : Run) :
    Except TemplateError String × Run :=
  match Template.parse source with
  | .error e => (.error (.parse e), s)
  | .ok t =>
    match t.compile r {} none with
    | .error e => (.error (.compile e), s)
    | .ok p => (p.execute o).outcome s

/-- The output of a source, which is parsed and rendered as a tree. -/
def renderSourceTree (source : String) (r : Registry) (o : Options) (s : Run) :
    Except TemplateError String × Run :=
  match Template.parse source with
  | .error e => (.error (.parse e), s)
  | .ok t => (t.render r o).outcome s

end Stencil
