import Stencil.Grammar.Expression

/-!
# Reading templates

A template is read node by node. Blocks enclose further nodes, so the reader of a node takes the
reader of what it encloses as a parameter; the knot is tied by a bound on the number of nodes that
lie behind or inside one another, for which the length of the source suffices because every node
takes up at least one character.

## Main definitions

* `node`: a text, a comment, a value that is written out, or a block
* `nodes`: as many nodes as there are
* `template`: the nodes of a whole source
-/

namespace Stencil.Grammar

open Reader

/-- Read the opening mark of a tag, and spaces behind it. -/
def tagOpen : Reader Unit := do
  symbol "\x7b%"
  blanks

/-- Read spaces, and the closing mark of a tag behind them. -/
def tagClose : Reader Unit := do
  blanks
  symbol "%\x7d"

/-- Read a tag that consists of one word. -/
def wordTag (word : String) : Reader Unit := do
  tagOpen
  symbol word
  tagClose

/-- Read text that is copied. -/
def textNode : Reader Node := do
  let pos ← position
  let content ← tracked .text (lexeme Scan.text)
  return .text (String.ofList content) (some pos)

/-- Read a comment. -/
def commentNode : Reader Node := do
  let pos ← position
  let _ ← tracked .comment (lexeme Scan.comment)
  return .comment (some pos)

/-- Read a value that is written out. -/
def outputNode : Reader Node :=
  tracked .variableTag do
    let pos ← position
    symbol "\x7b\x7b"
    blanks
    let expr ← filterExpression
    blanks
    symbol "\x7d\x7d"
    return .output expr (some pos)

/-- Read a tag that consists of a word and a condition. -/
def conditionTag (word : String) : Reader Condition := do
  tagOpen
  symbol word
  blanks1
  let test ← condition
  tagClose
  return test

/-- Read a further condition and the body behind it. -/
def elifBranch (body : Reader (List Node)) : Reader (Condition × List Node) :=
  tracked .elifBranch do
    let test ← conditionTag "elif"
    let inner ← body
    return (test, inner)

/-- Read the body for the case that no condition held. -/
def elseBranch (body : Reader (List Node)) : Reader (List Node) :=
  tracked .elseBranch do
    wordTag "else"
    body

/-- Read what follows the first body of a conditional, with at most `n` further conditions. -/
def branches (body : Reader (List Node)) : Nat → Reader Branches
  | 0 => return .none
  | n + 1 =>
    (do
      let (test, inner) ← elifBranch body
      let rest ← branches body n
      return .when test inner rest) <|>
    (do
      let inner ← elseBranch body
      return .otherwise inner) <|>
    return .none

/-- Read a conditional. -/
def conditionalNode (body : Reader (List Node)) (n : Nat) : Reader Node :=
  tracked .ifBlock do
    let pos ← position
    let test ← conditionTag "if"
    let inner ← body
    let rest ← branches body n
    wordTag "endif"
    return .conditional (.when test inner rest) (some pos)

/-- Read the body for the case that a loop has no items. -/
def emptyBranch (body : Reader (List Node)) : Reader (List Node) :=
  tracked .emptyBranch do
    wordTag "empty"
    body

/-- Read a loop. -/
def loopNode (body : Reader (List Node)) : Reader Node :=
  tracked .forBlock do
    let pos ← position
    tagOpen
    symbol "for"
    blanks1
    let binding ← identifier
    blanks1
    symbol "in"
    blanks1
    let iterable ← filterExpression
    tagClose
    let inner ← body
    let empty ← opt (emptyBranch body)
    wordTag "endfor"
    return .loop binding iterable inner empty (some pos)

/-- Read a block whose output is sent through a filter. -/
def filteredNode (body : Reader (List Node)) : Reader Node :=
  tracked .filterBlock do
    let pos ← position
    tagOpen
    symbol "filter"
    blanks1
    let call ← filterCall
    tagClose
    let inner ← body
    wordTag "endfilter"
    return .filtered call inner (some pos)

/-- Read a node, whose body is read with `body`, and which has at most `n` further conditions. -/
def node (body : Reader (List Node)) (n : Nat) : Reader Node :=
  commentNode <|> outputNode <|> conditionalNode body n <|> loopNode body <|> filteredNode body <|>
    textNode

/-- Read as many nodes as there are, of which at most `n` lie behind or inside one another. -/
def nodes : Nat → Reader (List Node)
  | 0 => return []
  | n + 1 =>
    (do
      let first ← node (nodes n) n
      let rest ← nodes n
      return first :: rest) <|>
    return []

/-- Read the nodes of a whole source. -/
def template : Reader Template := fun i =>
  (tracked .template do
    let found ← nodes (i.rest.length + 1)
    tracked .endOfInput endOfInput
    return found) i

end Stencil.Grammar
