import Stencil.Template.Basic
import Stencil.Grammar.Reader

/-!
# Reading expressions

An expression is an operand, and then filter calls behind vertical bars: `user.name|default:"?"`.
Spaces may surround a bar, but not the colon before an argument.

## Main definitions

* `operand`: a string, a number, `true`, `false`, `none`, or a variable
* `filterCall`: a filter with its argument
* `filterExpression`: an operand and filter calls
* `condition`: an expression with `not` in front of it at most
-/

namespace Stencil.Grammar

open Reader

/-- The text that a string literal denotes. -/
def stringOfQuoted (lexeme : List Char) : String :=
  String.ofList (Scan.unescape (lexeme.drop 1).dropLast)

@[simp] theorem stringOfQuoted_cons (quote : Char) (body : List Char) :
    stringOfQuoted (quote :: (body ++ [quote])) = String.ofList (Scan.unescape body) := by
  rw [stringOfQuoted, List.drop_one, List.tail_cons, List.dropLast_concat]

/-- The digits of a decimal before and behind its point, without its sign. -/
def decimalDigits (lexeme : List Char) : List Char × List Char :=
  let digits := if lexeme.head? = some '-' then lexeme.tail else lexeme
  (digits.takeWhile (· ≠ '.'), (digits.dropWhile (· ≠ '.')).drop 1)

/-- The number that a decimal literal denotes. -/
def numberOfDecimal (lexeme : List Char) : Float :=
  let (whole, places) := decimalDigits lexeme
  Number.ofDecimal (lexeme.head? = some '-') (Value.natOfDigits (whole ++ places)) places.length

/-- Read a string literal. -/
def quotedString : Reader Term :=
  tracked .quotedString do
    let lexeme ← lexeme Scan.quoted
    return .literal (.string (stringOfQuoted lexeme))

/-- Read a number. -/
def number : Reader Term :=
  tracked .number do
    let lexeme ← lexeme Scan.number
    return .literal (.number (numberOfDecimal lexeme))

/-- Read a truth value. -/
def boolLiteral : Reader Term :=
  tracked .boolLiteral do
    let lexeme ← lexeme (Scan.either (Scan.keyword "true".toList) (Scan.keyword "false".toList))
    return .literal (.bool (lexeme = "true".toList))

/-- Read the literal for no value. -/
def noneLiteral : Reader Term :=
  tracked .noneLiteral do
    let _ ← lexeme (Scan.keyword "none".toList)
    return .literal .nothing

/-- Read a variable. -/
def path : Reader Term :=
  tracked .path do
    let lexeme ← lexeme Scan.path
    return .variable (.ofDotted (String.ofList lexeme))

/-- Read a name. -/
def identifier : Reader String :=
  tracked .identifier do
    let lexeme ← lexeme Scan.identifier
    return String.ofList lexeme

/-- Read a literal or a variable. -/
def operand : Reader Operand := do
  let pos ← position
  let term ← quotedString <|> number <|> boolLiteral <|> noneLiteral <|> path
  return ⟨term, some pos⟩

/-- Read the argument of a filter. -/
def argument : Reader Operand := do
  symbol ":"
  operand

/-- Read a filter with its argument. -/
def filterCall : Reader FilterCall :=
  tracked .filterCall do
    let pos ← position
    let name ← identifier
    let arg ← opt argument
    return ⟨name, arg, some pos⟩

/-- Read a bar and a filter call behind it. -/
def pipe : Reader FilterCall := do
  blanks
  symbol "|"
  blanks
  filterCall

/-- Read an operand and filter calls. -/
def filterExpression : Reader FilterExpr :=
  tracked .filterExpression do
    let base ← operand
    let filters ← many pipe
    return ⟨base, filters⟩

/-- Read the word that negates a condition. -/
def negation : Reader Unit :=
  tracked .negation do
    symbol "not"
    blanks1

/-- Read an expression whose truth is tested. -/
def condition : Reader Condition :=
  tracked .condition do
    let negated ← opt negation
    let test ← filterExpression
    return ⟨negated.isSome, test⟩

end Stencil.Grammar
