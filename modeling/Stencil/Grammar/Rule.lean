/-!
# Rules of the grammar

The rules of the template grammar that an error can name as expected.

## Main definitions

* `Rule`: the rules, in the order in which they are listed in an error
* `Rule.name`: what a rule is called in an error
* `Rule.all`: all rules in order
-/

namespace Stencil.Grammar

/-- A rule of the template grammar. -/
inductive Rule where
  | endOfInput
  | template
  | text
  | comment
  | variableTag
  | filterExpression
  | filterCall
  | path
  | identifier
  | quotedString
  | number
  | boolLiteral
  | noneLiteral
  | ifBlock
  | elifBranch
  | elseBranch
  | condition
  | negation
  | forBlock
  | emptyBranch
  | filterBlock
deriving DecidableEq, Repr

namespace Rule

/-- What a rule is called in an error. -/
def name : Rule → String
  | endOfInput => "EOI"
  | template => "template"
  | text => "text"
  | comment => "comment"
  | variableTag => "variable_tag"
  | filterExpression => "filter_expression"
  | filterCall => "filter_call"
  | path => "path"
  | identifier => "identifier"
  | quotedString => "quoted_string"
  | number => "number"
  | boolLiteral => "bool_literal"
  | noneLiteral => "none_literal"
  | ifBlock => "if_block"
  | elifBranch => "elif_branch"
  | elseBranch => "else_branch"
  | condition => "condition"
  | negation => "negation"
  | forBlock => "for_block"
  | emptyBranch => "empty_branch"
  | filterBlock => "filter_block"

/-- All rules, in the order in which they are listed in an error. -/
def all : List Rule :=
  [endOfInput, template, text, comment, variableTag, filterExpression, filterCall, path, identifier,
    quotedString, number, boolLiteral, noneLiteral, ifBlock, elifBranch, elseBranch, condition,
    negation, forBlock, emptyBranch, filterBlock]

/-- The rules of a list, each once, in order. -/
def sorted (rules : List Rule) : List Rule :=
  all.filter (rules.contains ·)

/-- The rules as alternatives: `a`, `a or b`, or `a, b, or c`. -/
def alternatives : List Rule → String
  | [] => ""
  | [a] => a.name
  | [a, b] => a.name ++ " or " ++ b.name
  | a :: rest => listed a rest
where
  /-- Alternatives after the second, with a comma between neighbours. -/
  listed (a : Rule) : List Rule → String
    | [] => "or " ++ a.name
    | b :: rest => a.name ++ ", " ++ listed b rest

end Rule

end Stencil.Grammar
