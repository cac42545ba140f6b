import Stencil.Grammar.Rule

/-!
# Attempts and expectations

Reading a source tries rules at places and gives most of them up. The failed attempts, nested as the
rules called each other, explain why a source was rejected: at the furthest place of a failure, the
rules that were tried there are what was expected. A rule stands for the rules that failed inside it
at its own place, unless exactly one did, which is then the more telling name.

## Main definitions

* `Attempt`: a failed rule, its place and the attempts inside it
* `Expectation`: the furthest place of a failure and the rules expected there
* `Expectation.note`: the expectation after one more attempt
-/

namespace Stencil.Grammar

/-- A rule that failed at a byte offset, and the attempts that failed on the way. -/
inductive Attempt where
  | failed (rule : Rule) (offset : Nat) (inner : List Attempt)

/-- The rules expected at a byte offset. -/
structure Expectation where
  offset : Nat
  rules : List Rule

namespace Expectation

/-- Nothing was tried yet. -/
def initial : Expectation := ⟨0, []⟩

/-- How many rules are expected at `offset`. -/
def countAt (e : Expectation) (offset : Nat) : Nat :=
  if offset = e.offset then e.rules.length else 0

/-- The expectation once `rule` has failed at `offset`, where `before` held when the rule was
called and `inside` when it failed. -/
def afterFailure (before inside : Expectation) (rule : Rule) (offset : Nat) : Expectation :=
  -- Exactly one rule was added in there: it says more than the rule around it.
  if inside.countAt offset = before.countAt offset + 1 then
    inside
  -- Several were added, or none: the rule around them stands for all of them.
  else if offset = inside.offset then
    ⟨offset, inside.rules.take (before.countAt offset) ++ [rule]⟩
  else if inside.offset < offset then
    ⟨offset, [rule]⟩
  else
    inside

mutual

/-- The expectation after one more attempt. -/
def note : Expectation → Attempt → Expectation
  | e, .failed rule offset inner => afterFailure e (noteAll e inner) rule offset

/-- The expectation after further attempts, in the order in which they were made. -/
def noteAll : Expectation → List Attempt → Expectation
  | e, [] => e
  | e, a :: rest => noteAll (note e a) rest

end

end Expectation

end Stencil.Grammar
