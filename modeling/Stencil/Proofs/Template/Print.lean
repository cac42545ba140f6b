import Stencil.Template.Operands
import Stencil.Grammar.Expression
import Stencil.Proofs.Grammar.Passage

/-!
# Printing templates

A template is printed without superfluous spaces: text as it is, comments empty, strings between
double quotes. There is no canonical text for a number, so the spelling of numbers is a parameter.
Not every tree can be read back: two neighbouring texts would be read as one, a text must not open a
tag, and there are no literals for arrays and maps. The well-formed trees are those that can.

## Main definitions

* `Node.erasePos`, `Template.erasePos`: a tree without its positions
* `Operand.print`, `FilterExpr.print`, `Node.print`, `Template.print`: the text of a tree
* `Operand.WellFormed`, `Node.WellFormed`, `Template.WellFormed`: the trees that can be read back
* `Operand.SpelledBy`: the spelling of a number denotes that number
-/

namespace Stencil

open Grammar Scan

/-! ## Trees without positions -/

/-- The operand without its position. -/
def Operand.erasePos (o : Operand) : Operand :=
  { o with pos := none }

/-- The filter call without positions. -/
def FilterCall.erasePos (call : FilterCall) : FilterCall :=
  ⟨call.name, call.arg.map Operand.erasePos, none⟩

/-- The expression without positions. -/
def FilterExpr.erasePos (e : FilterExpr) : FilterExpr :=
  ⟨e.base.erasePos, e.filters.map FilterCall.erasePos⟩

/-- The condition without positions. -/
def Condition.erasePos (test : Condition) : Condition :=
  ⟨test.negated, test.test.erasePos⟩

mutual

/-- The node without positions. -/
def Node.erasePos : Node → Node
  | .text content _ => .text content none
  | .comment _ => .comment none
  | .output expr _ => .output expr.erasePos none
  | .conditional branches _ => .conditional (Branches.erasePos branches) none
  | .loop binding iterable body empty _ =>
    .loop binding iterable.erasePos (Node.erasePosAll body) (Node.erasePosOpt empty) none
  | .filtered call body _ => .filtered call.erasePos (Node.erasePosAll body) none

/-- The nodes without positions. -/
def Node.erasePosAll : List Node → List Node
  | [] => []
  | n :: rest => Node.erasePos n :: Node.erasePosAll rest

/-- The body without positions, if there is one. -/
def Node.erasePosOpt : Option (List Node) → Option (List Node)
  | none => none
  | some body => some (Node.erasePosAll body)

/-- The branches without positions. -/
def Branches.erasePos : Branches → Branches
  | .none => .none
  | .otherwise body => .otherwise (Node.erasePosAll body)
  | .when test body rest =>
    .when test.erasePos (Node.erasePosAll body) (Branches.erasePos rest)

end

/-- The template without positions. -/
def Template.erasePos (t : Template) : Template :=
  Node.erasePosAll t

/-! ## Texts of trees -/

section Print

variable (spell : Operand → List Char)

/-- The text of a literal or a variable; `spell` gives the texts of numbers. -/
def Operand.print (o : Operand) : List Char :=
  match o.term with
  | .literal (.string s) => '"' :: (escaped '"' s.toList ++ ['"'])
  | .literal (.number _) => spell o
  | .literal (.bool b) => if b then "true".toList else "false".toList
  | .literal .nothing => "none".toList
  | .literal (.array _) => []
  | .literal (.map _) => []
  | .variable p => p.key.toList

/-- The name of a filter, and its argument behind a colon. -/
def FilterCall.print (call : FilterCall) : List Char :=
  call.name.toList ++
    match call.arg with
    | none => []
    | some o => ":".toList ++ o.print spell

/-- A filter call behind a bar. -/
def FilterCall.printPiped (call : FilterCall) : List Char :=
  "|".toList ++ call.print spell

/-- An operand, and filter calls behind bars. -/
def FilterExpr.print (e : FilterExpr) : List Char :=
  e.base.print spell ++ e.filters.flatMap (FilterCall.printPiped spell)

/-- An expression, perhaps with `not` in front. -/
def Condition.print (test : Condition) : List Char :=
  (if test.negated then "not".toList ++ [' '] else []) ++ test.test.print spell

/-- A tag that consists of one word. -/
def printTag (word : String) : List Char :=
  "\x7b%".toList ++ (word.toList ++ "%\x7d".toList)

/-- A tag that consists of a word and something behind it. -/
def printPhrase (word : String) (inner : List Char) : List Char :=
  "\x7b%".toList ++ (word.toList ++ ([' '] ++ (inner ++ "%\x7d".toList)))

mutual

/-- The text of a node. -/
def Node.print : Node → List Char
  | .text content _ => content.toList
  | .comment _ => "\x7b##\x7d".toList
  | .output expr _ => "\x7b\x7b".toList ++ (expr.print spell ++ "\x7d\x7d".toList)
  | .conditional branches _ => Branches.print "if" branches ++ printTag "endif"
  | .loop binding iterable body empty _ =>
    printPhrase "for"
        (binding.toList ++ ([' '] ++ ("in".toList ++ ([' '] ++ iterable.print spell))))
      ++ (Node.printAll body ++ (Node.printEmpty empty ++ printTag "endfor"))
  | .filtered call body _ =>
    printPhrase "filter" (call.print spell) ++ (Node.printAll body ++ printTag "endfilter")

/-- The texts of nodes, one behind the other. -/
def Node.printAll : List Node → List Char
  | [] => []
  | n :: rest => Node.print n ++ Node.printAll rest

/-- The text of a body for the lack of items. -/
def Node.printEmpty : Option (List Node) → List Char
  | none => []
  | some body => printTag "empty" ++ Node.printAll body

/-- The text of branches, of which the first is introduced by `word`. -/
def Branches.print (word : String) : Branches → List Char
  | .none => []
  | .otherwise body => printTag "else" ++ Node.printAll body
  | .when test body rest =>
    printPhrase word (test.print spell) ++ (Node.printAll body ++ Branches.print "elif" rest)

end

/-- The text of a template. -/
def Template.print (t : Template) : String :=
  String.ofList (Node.printAll spell t)

/-- The spelling of a number is a decimal that denotes this number. -/
def Operand.SpelledBy (o : Operand) : Prop :=
  ∀ x, o.term = .literal (.number x) → IsDecimal (spell o) ∧ numberOfDecimal (spell o) = x

end Print

/-! ## Trees that can be read back -/

/-- The operand is a regular path that is no keyword, or a literal that can be written. -/
def Operand.WellFormed (o : Operand) : Prop :=
  match o.term with
  | .literal (.string _) | .literal (.number _) | .literal (.bool _) | .literal .nothing => True
  | .literal (.array _) | .literal (.map _) => False
  | .variable p => p.Regular ∧ p ∉ [⟨"true", []⟩, ⟨"false", []⟩, ⟨"none", []⟩]

/-- The filter has a name, and its argument is well-formed. -/
def FilterCall.WellFormed (call : FilterCall) : Prop :=
  IsIdentifier call.name.toList ∧ ∀ o ∈ call.arg, o.WellFormed

/-- All parts of the expression are well-formed. -/
def FilterExpr.WellFormed (e : FilterExpr) : Prop :=
  e.base.WellFormed ∧ ∀ call ∈ e.filters, call.WellFormed

/-- The content of a node that is a text. -/
def Node.text? : Node → Option String
  | .text content _ => some content
  | _ => none

/-- There is a test for the first branch. -/
def Branches.Tested : Branches → Prop
  | .when _ _ _ => True
  | _ => False

/-- A text is not followed by another text, and ends with an opening brace only if nothing at all
follows it, not even the end of a block that it is nested in. -/
def Node.Joins (nested : Bool) (n : Node) (rest : List Node) : Prop :=
  ∀ content ∈ n.text?, (∀ next ∈ rest.head?, next.text? = none) ∧
    (content.toList.getLast? = some '{' → rest = [] ∧ nested = false)

mutual

/-- The node can be read back. -/
def Node.WellFormed : Node → Prop
  | .text content _ => content ≠ "" ∧ ¬ HasOpening content.toList
  | .comment _ => True
  | .output expr _ => expr.WellFormed
  | .conditional branches _ => branches.Tested ∧ Branches.WellFormed branches
  | .loop binding iterable body empty _ =>
    IsIdentifier binding.toList ∧ iterable.WellFormed ∧ Node.WellFormedAll true body ∧
      Node.WellFormedOpt empty
  | .filtered call body _ => call.WellFormed ∧ Node.WellFormedAll true body

/-- The nodes can be read back, inside a block if they are nested. -/
def Node.WellFormedAll (nested : Bool) : List Node → Prop
  | [] => True
  | n :: rest => Node.WellFormed n ∧ n.Joins nested rest ∧ Node.WellFormedAll nested rest

/-- The body can be read back, if there is one. -/
def Node.WellFormedOpt : Option (List Node) → Prop
  | none => True
  | some body => Node.WellFormedAll true body

/-- The branches can be read back. -/
def Branches.WellFormed : Branches → Prop
  | .none => True
  | .otherwise body => Node.WellFormedAll true body
  | .when test body rest =>
    test.test.WellFormed ∧ Node.WellFormedAll true body ∧ Branches.WellFormed rest

end

/-- The template can be read back. -/
def Template.WellFormed (t : Template) : Prop :=
  Node.WellFormedAll false t

end Stencil
