import Stencil.Source.Position

/-!
# Errors of rendering

What can go wrong while a template is rendered, and where in the template it did.

## Main definitions

* `FaultKind`, `Fault`: what went wrong, and the text that tells it
* `RenderError`: a fault, its position once that is known, and what it arose from
* `RenderError.orPos`: the position nearest to the failure stays
-/

namespace Stencil

/-- What kind of thing went wrong while a template was rendered. -/
inductive FaultKind where
  /-- A variable that has to exist does not. -/
  | missingVariable
  /-- No filter has the name of a call. -/
  | unknownFilter
  /-- A filter lacks an argument, has one too many, or does not like it. -/
  | filterArgument
  /-- A filter cannot do its work. -/
  | filterFailed
  /-- A value is not of the kind that is asked for. -/
  | wrongType
  /-- A loop cannot run through a value. -/
  | notIterable
  /-- More nodes were evaluated, or more turns taken, than allowed. -/
  | limit
  /-- The rendering was called off. -/
  | cancelled
deriving DecidableEq, Repr

/-- What went wrong, and how it is told. A filter may fail with any of them. -/
structure Fault where
  kind : FaultKind
  message : String
deriving DecidableEq, Repr

namespace Fault

/-! The faults of the renderers themselves and of the standard filters. -/

def missingVariable (key : String) : Fault :=
  ⟨.missingVariable, "variable does not exist: " ++ key⟩

def unknownFilter (name : String) : Fault :=
  ⟨.unknownFilter, "unknown filter: " ++ name⟩

def filterArgument (name problem : String) : Fault :=
  ⟨.filterArgument, "filter `" ++ name ++ "` " ++ problem⟩

def filterFailed (name reason : String) : Fault :=
  ⟨.filterFailed, "filter `" ++ name ++ "` failed: " ++ reason⟩

def wrongType (expected got : String) : Fault :=
  ⟨.wrongType, "expected " ++ expected ++ ", got " ++ got⟩

def notIterable (got : String) : Fault :=
  ⟨.notIterable, "for requires an array, map or none, got " ++ got⟩

def tooManyEvaluations (max : Nat) : Fault :=
  ⟨.limit, "render exceeded maximum of " ++ toString max ++ " node evaluations"⟩

def tooManyIterations (max : Nat) : Fault :=
  ⟨.limit, "render exceeded maximum of " ++ toString max ++ " loop iterations"⟩

def cancelled (reason : String) : Fault :=
  ⟨.cancelled, reason⟩

/-- Whether a variable was missing. -/
def isMissingVariable (f : Fault) : Bool :=
  f.kind = .missingVariable

end Fault

/-- A fault, its position in the template once that is known, and the fault it arose from. -/
structure RenderError where
  fault : Fault
  pos : Option Position := none
  source : Option Fault := none
deriving DecidableEq, Repr

namespace RenderError

/-- The text of an error. -/
def message (e : RenderError) : String :=
  e.fault.message

/-- The error at the given position. -/
def withPos (e : RenderError) (pos : Position) : RenderError :=
  { e with pos := some pos }

/-- The error at its own position, or at the given one if it has none yet. -/
def orPos (e : RenderError) (pos : Position) : RenderError :=
  { e with pos := some (e.pos.getD pos) }

/-- The error with the fault that it arose from. -/
def withSource (e : RenderError) (source : Fault) : RenderError :=
  { e with source := some source }

@[simp] theorem fault_orPos (e : RenderError) (pos : Position) :
    (e.orPos pos).fault = e.fault := rfl

@[simp] theorem pos_orPos (e : RenderError) (pos : Position) :
    (e.orPos pos).pos = some (e.pos.getD pos) := rfl

/-- A position that is there already is not replaced. -/
@[simp] theorem orPos_orPos (e : RenderError) (p q : Position) :
    (e.orPos p).orPos q = e.orPos p := rfl

end RenderError

end Stencil
