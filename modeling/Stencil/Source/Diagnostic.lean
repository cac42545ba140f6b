import Stencil.Source.Position
import Stencil.Text.Fields

/-!
# Diagnostics

A diagnostic is a message about a span of a source. It is shown above the line in which the span
starts, with a row of carets under that line.

## Main definitions

* `Diagnostic`: a span, a message and an optional hint
* `Diagnostic.format`: the diagnostic together with the line it is about
-/

namespace Stencil

/-- A message about a span of a source. -/
structure Diagnostic where
  span : Span
  message : String
  hint : Option String := none
deriving DecidableEq, Repr

namespace Diagnostic

/-- The pieces between newlines as lines: a carriage return right before a newline belongs to the
line end. -/
def linesOf : List (List Char) → List (List Char)
  | [] => []
  | [piece] => [piece]
  | piece :: next :: rest =>
    (if piece.getLast? = some '\r' then piece.dropLast else piece) :: linesOf (next :: rest)

/-- The line with the given number, empty if the source has no such line. -/
def sourceLine (source : String) (line : Nat) : String :=
  match (linesOf (Text.cut '\n' source.toList))[line - 1]? with
  | some cs => String.ofList cs
  | none => ""

/-- A line number, set flush right in at least three columns. -/
def lineNumber (line : Nat) : String :=
  let digits := toString line
  Text.copies (3 - digits.length) ' ' ++ digits

/-- The row under the source line: a caret for every byte of the span, but at least one. -/
def pointer (d : Diagnostic) (column : Nat) : String :=
  Text.copies (column - 1) ' ' ++ Text.copies (max 1 (d.span.stop - d.span.start)) '^'

/-- The diagnostic with its place, the source line and the carets under it, and the hint. -/
def format (d : Diagnostic) (source : String) (name : Option String) : String :=
  let place := Position.ofOffset source d.span.start
  let header :=
    match name with
    | some name => " --> " ++ name ++ ":" ++ place.text
    | none => " --> " ++ place.text
  let rows :=
    "Error: " ++ d.message ++ "\n" ++ header ++ "\n  |\n" ++
      lineNumber place.line ++ " | " ++ sourceLine source place.line ++ "\n    | " ++
      d.pointer place.column
  match d.hint with
  | some hint => rows ++ "\n  = hint: " ++ hint
  | none => rows

end Diagnostic

end Stencil
