import Stencil.Grammar.Block
import Stencil.Grammar.ParseError

/-!
# Parsing

A source is read as a template or as a single expression, or it is rejected with one error.

## Main definitions

* `Template.parse`: the template that a source spells
* `FilterExpr.parse`: the expression that a source spells
-/

namespace Stencil

open Grammar

/-- The template that a source spells. -/
def Template.parse (source : String) : Except ParseError Template :=
  let reading := Grammar.template (.ofSource source)
  match reading.result with
  | some (t, _) => .ok t
  | none => .error (.ofExpectation source (Expectation.noteAll .initial reading.attempts))

/-- Parsing succeeds where reading does. -/
theorem Template.parse_eq_ok_iff {source : String} {t : Template} :
    Template.parse source = .ok t ↔
      ∃ j, (Grammar.template (.ofSource source)).result = some (t, j) := by
  unfold Template.parse
  generalize Grammar.template (.ofSource source) = reading
  obtain ⟨result, attempts⟩ := reading
  cases result with
  | none => simp
  | some found => simp [Prod.ext_iff]

/-- The expression that a source spells from its first to its last character. -/
def FilterExpr.parse (source : String) : Except ParseError FilterExpr :=
  let reading := Grammar.filterExpression (.ofSource source)
  match reading.result with
  | some (e, ⟨_, []⟩) => .ok e
  | some (_, ⟨cursor, _ :: _⟩) => .error (.trailing ⟨cursor.offset, source.utf8ByteSize⟩)
  | none => .error (.ofExpectation source (Expectation.noteAll .initial reading.attempts))

/-- An expression is the whole source where reading leaves nothing. -/
theorem FilterExpr.parse_eq_ok_iff {source : String} {e : FilterExpr} :
    FilterExpr.parse source = .ok e ↔
      ∃ k, (Grammar.filterExpression (.ofSource source)).result = some (e, ⟨k, []⟩) := by
  unfold FilterExpr.parse
  generalize Grammar.filterExpression (.ofSource source) = reading
  obtain ⟨_ | ⟨e', k, _ | ⟨c, rest⟩⟩, attempts⟩ := reading <;> simp

end Stencil
