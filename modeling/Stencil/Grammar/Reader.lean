import Stencil.Source.Position
import Stencil.Grammar.Attempt
import Stencil.Grammar.Scan

/-!
# Readers

A reader reads something from the front of the characters ahead, or fails and leaves them as they
are. Choice is ordered and repetition is greedy: what a reader did is never taken back for the sake
of what follows. Beside its result a reading lists the attempts that failed in the course of it;
they have no influence on any result.

## Main definitions

* `Input`: the characters ahead, and the place of the first of them
* `Reading`: the result of a reader, and the failed attempts
* `Reader`: from an input to a reading
* `Reader.tracked`: a reader whose failure is an attempt at a rule
* `Reader.lexeme`, `Reader.many`, `Reader.opt`: the parts that readers are made of

## Main results

* `Reader.result_bind`, `Reader.result_orElse`, `Reader.result_tracked`: results are what they would
  be without any tracking
-/

namespace Stencil.Grammar

/-- The characters ahead, and the place of the first of them. -/
structure Input where
  cursor : Cursor
  rest : List Char

/-- All characters of a source lie ahead. -/
def Input.ofSource (source : String) : Input :=
  ⟨.start, source.toList⟩

/-- What a reader read and what lies ahead then, or `none` if it failed; and the attempts that
failed, in the order in which they were made. -/
structure Reading (α : Type) where
  result : Option (α × Input)
  attempts : List Attempt

/-- Reads something from the front of an input. -/
def Reader (α : Type) : Type :=
  Input → Reading α

namespace Reader

variable {α β : Type}

instance : Monad Reader where
  pure a := fun i => ⟨some (a, i), []⟩
  bind p f := fun i =>
    match p i with
    | ⟨none, tried⟩ => ⟨none, tried⟩
    | ⟨some (a, j), tried⟩ =>
      let next := f a j
      ⟨next.result, tried ++ next.attempts⟩

instance : OrElse (Reader α) where
  orElse p q := fun i =>
    match p i with
    | ⟨some found, tried⟩ => ⟨some found, tried⟩
    | ⟨none, tried⟩ =>
      let next := q () i
      ⟨next.result, tried ++ next.attempts⟩

/-- Read with `p`, whose failure is a failed attempt at `rule`. -/
def tracked (rule : Rule) (p : Reader α) : Reader α := fun i =>
  match p i with
  | ⟨some found, tried⟩ => ⟨some found, tried⟩
  | ⟨none, tried⟩ => ⟨none, [.failed rule i.cursor.offset tried]⟩

/-- Read nothing and give the position of the next character. -/
def position : Reader Position := fun i =>
  ⟨some (i.cursor.position, i), []⟩

/-- Read the lexeme that a scanner finds. -/
def lexeme (scan : Scanner) : Reader (List Char) := fun i =>
  match scan i.rest with
  | some (found, rest) => ⟨some (found, ⟨i.cursor.past found, rest⟩), []⟩
  | none => ⟨none, []⟩

/-- Read the end of the input. -/
def endOfInput : Reader Unit := fun i =>
  match i.rest with
  | [] => ⟨some ((), i), []⟩
  | _ :: _ => ⟨none, []⟩

/-- Read with `p` as long as it succeeds, at most `n` times. -/
def upTo (p : Reader α) : Nat → Reader (List α)
  | 0 => return []
  | n + 1 =>
    (do
      let a ← p
      let rest ← upTo p n
      return a :: rest) <|>
    return []

/-- Read with `p` as long as it succeeds. A reader that always reads at least one character cannot
succeed more often than there are characters. -/
def many (p : Reader α) : Reader (List α) := fun i =>
  p.upTo (i.rest.length + 1) i

/-- Read with `p` if it succeeds, and else read nothing. -/
def opt (p : Reader α) : Reader (Option α) :=
  (do
    let a ← p
    return some a) <|>
  return none

/-- Read the given characters. -/
def symbol (s : String) : Reader Unit := do
  let _ ← lexeme (Scan.literal s.toList)

/-- Read spaces, perhaps none. -/
def blanks : Reader Unit := do
  let _ ← lexeme Scan.blanks

/-- Read at least one space. -/
def blanks1 : Reader Unit := do
  let _ ← lexeme Scan.blanks1

section Result

variable (p q : Reader α) (f : α → Reader β) (i : Input)

@[simp] theorem result_pure (a : α) : ((pure a : Reader α) i).result = some (a, i) := rfl

/-- A sequence succeeds where its parts do, one behind the other. -/
@[simp] theorem result_bind :
    ((p >>= f) i).result = (p i).result.bind fun (a, j) => (f a j).result := by
  simp only [Bind.bind]
  cases p i with
  | mk result tried => cases result <;> rfl

/-- What a sequence reads, its second part reads behind its first. -/
theorem result_bind_eq_some_iff {b : β} {j : Input} :
    ((p >>= f) i).result = some (b, j) ↔
      ∃ a k, (p i).result = some (a, k) ∧ (f a k).result = some (b, j) := by
  rw [result_bind, Option.bind_eq_some_iff, Prod.exists]

/-- A choice gives the result of the first reader, unless that one fails. -/
@[simp] theorem result_orElse : ((p <|> q) i).result = (p i).result.or (q i).result := by
  simp only [HOrElse.hOrElse, OrElse.orElse]
  cases p i with
  | mk result tried => cases result <;> rfl

/-- Tracking a reader has no influence on its result. -/
@[simp] theorem result_tracked (rule : Rule) : (p.tracked rule i).result = (p i).result := by
  simp only [tracked]
  cases p i with
  | mk result tried => cases result <;> rfl

@[simp] theorem result_position : (position i).result = some (i.cursor.position, i) := rfl

@[simp] theorem result_lexeme (scan : Scanner) :
    (lexeme scan i).result =
      (scan i.rest).map fun (found, rest) => (found, ⟨i.cursor.past found, rest⟩) := by
  simp only [lexeme]
  cases scan i.rest <;> rfl

end Result

end Reader

end Stencil.Grammar
