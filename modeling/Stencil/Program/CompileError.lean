import Stencil.Source.Position

/-!
# Errors of compilation

Why a template cannot be compiled: a filter is called in a way that can never work, or a construct
has no statement.

## Main definitions

* `CompileError`: the reasons, each with its position
* `CompileError.message`: the text of an error
-/

namespace Stencil

/-- Why a template cannot be compiled. -/
inductive CompileError where
  /-- No filter has this name. -/
  | unknownFilter (name : String) (pos : Position)
  /-- A filter lacks an argument or has one too many. -/
  | filterArity (name problem : String) (pos : Position)
  /-- There is no statement for this construct. -/
  | unsupported (construct : String) (pos : Position)
deriving DecidableEq, Repr

namespace CompileError

/-- The position of an error. -/
def pos : CompileError → Position
  | unknownFilter _ pos => pos
  | filterArity _ _ pos => pos
  | unsupported _ pos => pos

/-- The text of an error. -/
def message : CompileError → String
  | unknownFilter name pos => pos.text ++ ": unknown filter `" ++ name ++ "`"
  | filterArity name problem pos => pos.text ++ ": filter `" ++ name ++ "` " ++ problem
  | unsupported construct pos => pos.text ++ ": `" ++ construct ++ "` cannot be compiled"

/-- Whether the template is in order, and merely cannot be compiled. -/
def isUnsupported : CompileError → Bool
  | unsupported _ _ => true
  | _ => false

end CompileError

end Stencil
