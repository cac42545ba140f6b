import Stencil.Grammar.ParseError
import Stencil.Program.CompileError
import Stencil.Render.Error

/-!
# Errors on the way from a source to its output

## Main definitions

* `LoadError`: why a named template cannot be loaded
* `TemplateError`: any error between a source and its output
-/

namespace Stencil

/-- Why a named template cannot be loaded. -/
inductive LoadError where
  /-- There is no source under this name. -/
  | notFound (name : String)
  /-- The source is rejected. -/
  | parse (name : String) (cause : Grammar.ParseError)
  /-- The template cannot be compiled. -/
  | compile (name : String) (cause : CompileError)

/-- The text of an error. -/
def LoadError.message : LoadError → String
  | notFound name => "template not found: " ++ name
  | parse name cause => "failed to parse template `" ++ name ++ "`: " ++ cause.message
  | compile name cause => "failed to compile template `" ++ name ++ "`: " ++ cause.message

/-- Any error between a source and its output. -/
inductive TemplateError where
  | parse (cause : Grammar.ParseError)
  | compile (cause : CompileError)
  | load (cause : LoadError)
  | render (cause : RenderError)

end Stencil
