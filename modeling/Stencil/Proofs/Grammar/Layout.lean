import Stencil.Template.Parse
import Stencil.Proofs.Grammar.Triple

/-!
# Layouts

How a tree lies in its source, said without a reader. A layout relates a part of a tree to the
characters that spell it and to the characters before them: tags hold spaces wherever these are
allowed, blocks enclose the characters of their bodies, and every position is the position of the
byte at which the part starts.

## Main definitions

* `Operand.Spelled`, `FilterCall.Spelled`, `FilterExpr.Spelled`, `Condition.Spelled`: expressions
* `WordTag`, `ConditionTag`, `LoopTag`, `FilterTag`: tags
* `Node.Spelled`, `Node.SpelledAll`, `Branches.Spelled`: the parts of a template

## Main results

* `Node.reads_node`, `Node.reads_nodes`: what is read is laid out on the characters that were read
* `spelledAll_of_parse`: a template is laid out on its whole source
-/

namespace Stencil

open Grammar Scan Reader

/-- Spaces, perhaps none. -/
def IsBlank (cs : List Char) : Prop :=
  ∀ c ∈ cs, isSpace c

/-! ## Layouts of expressions -/

/-- The characters of a literal or a variable. -/
inductive Term.Spelled : Term → List Char → Prop
  | string {quote : Char} {body : List Char} (hquote : quote = '"' ∨ quote = '\'')
      (hbody : Shielded quote body) :
      Spelled (.literal (.string (String.ofList (unescape body)))) (quote :: (body ++ [quote]))
  | number {cs : List Char} (h : IsDecimal cs) :
      Spelled (.literal (.number (numberOfDecimal cs))) cs
  | bool (b : Bool) :
      Spelled (.literal (.bool b)) (if b then "true".toList else "false".toList)
  | nothing : Spelled (.literal .nothing) "none".toList
  | variable {p : Path} (h : p.Regular) : Spelled (.variable p) p.key.toList

/-- The characters of an operand, and its position. -/
structure Operand.Spelled (source : String) (before : List Char) (o : Operand)
    (cs : List Char) : Prop where
  term : o.term.Spelled cs
  pos : o.pos = some (.behind source before)

section Layouts

variable (source : String)

/-- A name, and perhaps an argument behind a colon. -/
inductive FilterCall.Spelled (before : List Char) : FilterCall → List Char → Prop
  | plain {name : List Char} (hname : IsIdentifier name) :
      Spelled before ⟨String.ofList name, none, some (.behind source before)⟩ name
  | withArg {name cs : List Char} {arg : Operand} (hname : IsIdentifier name)
      (harg : arg.Spelled source (before ++ name ++ ":".toList) cs) :
      Spelled before ⟨String.ofList name, some arg, some (.behind source before)⟩
        (name ++ (":".toList ++ cs))

/-- A filter call behind a bar, with spaces around the bar. -/
def FilterCall.Piped (before : List Char) (call : FilterCall) (cs : List Char) : Prop :=
  ∃ left right inner, IsBlank left ∧ IsBlank right ∧
    call.Spelled source (before ++ left ++ "|".toList ++ right) inner ∧
    cs = left ++ ("|".toList ++ (right ++ inner))

/-- An operand and filter calls behind bars. -/
def FilterExpr.Spelled (before : List Char) (e : FilterExpr) (cs : List Char) : Prop :=
  ∃ base calls, e.base.Spelled source before base ∧
    Sequence (FilterCall.Piped source) (before ++ base) e.filters calls ∧ cs = base ++ calls

/-- An expression, and perhaps `not` before it. -/
inductive Condition.Spelled (before : List Char) : Condition → List Char → Prop
  | plain {e : FilterExpr} {cs : List Char} (he : e.Spelled source before cs) :
      Spelled before ⟨false, e⟩ cs
  | negated {e : FilterExpr} {spaces cs : List Char} (hne : spaces ≠ []) (hspaces : IsBlank spaces)
      (he : e.Spelled source (before ++ ("not".toList ++ spaces)) cs) :
      Spelled before ⟨true, e⟩ ("not".toList ++ spaces ++ cs)

/-! ## Layouts of tags -/

/-- The opening mark of a tag and spaces. -/
def TagOpen (cs : List Char) : Prop :=
  ∃ right, IsBlank right ∧ cs = "\x7b%".toList ++ right

/-- Spaces and the closing mark of a tag. -/
def TagClose (cs : List Char) : Prop :=
  ∃ left, IsBlank left ∧ cs = left ++ "%\x7d".toList

/-- A tag that consists of one word. -/
def WordTag (word : String) (cs : List Char) : Prop :=
  ∃ opening closing, TagOpen opening ∧ TagClose closing ∧
    cs = opening ++ (word.toList ++ closing)

/-- A tag that consists of a word and something behind it. -/
def PhraseTag {α : Type} (word : String) (R : List Char → α → List Char → Prop)
    (before : List Char) (a : α) (cs : List Char) : Prop :=
  ∃ opening spaces inner closing, TagOpen opening ∧ spaces ≠ [] ∧ IsBlank spaces ∧
    R (before ++ opening ++ word.toList ++ spaces) a inner ∧ TagClose closing ∧
    cs = opening ++ (word.toList ++ (spaces ++ (inner ++ closing)))

/-- A loop variable, the word `in` and an expression. -/
def LoopHead (before : List Char) (head : String × FilterExpr) (cs : List Char) : Prop :=
  ∃ binding spaces spaces' inner, IsIdentifier binding ∧ head.1 = String.ofList binding ∧
    spaces ≠ [] ∧ IsBlank spaces ∧ spaces' ≠ [] ∧ IsBlank spaces' ∧
    head.2.Spelled source (before ++ binding ++ spaces ++ "in".toList ++ spaces') inner ∧
    cs = binding ++ (spaces ++ ("in".toList ++ (spaces' ++ inner)))

/-! ## Layouts of nodes -/

mutual

/-- The characters of a node. -/
inductive Node.Spelled : List Char → Node → List Char → Prop
  /-- Text stands as it is, and nothing opens in it. -/
  | text {before content : List Char} (hne : content ≠ []) (hcontent : ¬ HasOpening content) :
      Node.Spelled before (.text (String.ofList content) (some (.behind source before))) content
  /-- A comment ends with its first end mark. -/
  | comment {before inner : List Char} (hinner : ¬ ['#', '}'] <:+: inner ++ ['#']) :
      Node.Spelled before (.comment (some (.behind source before)))
        (['{', '#'] ++ (inner ++ ['#', '}']))
  | output {before left inner right : List Char} {expr : FilterExpr} (hleft : IsBlank left)
      (hexpr : expr.Spelled source (before ++ "\x7b\x7b".toList ++ left) inner)
      (hright : IsBlank right) :
      Node.Spelled before (.output expr (some (.behind source before)))
        ("\x7b\x7b".toList ++ (left ++ (inner ++ (right ++ "\x7d\x7d".toList))))
  | conditional {before tag inner tail closing : List Char} {test : Condition} {body : List Node}
      {rest : Branches} (htest : PhraseTag "if" (Condition.Spelled source) before test tag)
      (hbody : Node.SpelledAll (before ++ tag) body inner)
      (hrest : Branches.Spelled (before ++ tag ++ inner) rest tail)
      (hclosing : WordTag "endif" closing) :
      Node.Spelled before (.conditional (.when test body rest) (some (.behind source before)))
        (tag ++ (inner ++ (tail ++ closing)))
  | loop {before tag inner tail closing : List Char} {binding : String} {iterable : FilterExpr}
      {body : List Node} {empty : Option (List Node)}
      (hhead : PhraseTag "for" (LoopHead source) before (binding, iterable) tag)
      (hbody : Node.SpelledAll (before ++ tag) body inner)
      (hempty : Node.SpelledEmpty (before ++ tag ++ inner) empty tail)
      (hclosing : WordTag "endfor" closing) :
      Node.Spelled before (.loop binding iterable body empty (some (.behind source before)))
        (tag ++ (inner ++ (tail ++ closing)))
  | filtered {before tag inner closing : List Char} {call : FilterCall} {body : List Node}
      (hcall : PhraseTag "filter" (FilterCall.Spelled source) before call tag)
      (hbody : Node.SpelledAll (before ++ tag) body inner)
      (hclosing : WordTag "endfilter" closing) :
      Node.Spelled before (.filtered call body (some (.behind source before)))
        (tag ++ (inner ++ closing))

/-- The characters of nodes, one behind the other. -/
inductive Node.SpelledAll : List Char → List Node → List Char → Prop
  | nil {before : List Char} : Node.SpelledAll before [] []
  | cons {before cs ds : List Char} {n : Node} {rest : List Node} (hn : Node.Spelled before n cs)
      (hrest : Node.SpelledAll (before ++ cs) rest ds) :
      Node.SpelledAll before (n :: rest) (cs ++ ds)

/-- The characters of a body for the lack of items. -/
inductive Node.SpelledEmpty : List Char → Option (List Node) → List Char → Prop
  | none {before : List Char} : Node.SpelledEmpty before none []
  | some {before tag inner : List Char} {body : List Node} (htag : WordTag "empty" tag)
      (hbody : Node.SpelledAll (before ++ tag) body inner) :
      Node.SpelledEmpty before (some body) (tag ++ inner)

/-- The characters of the branches of a choice, except for the first. -/
inductive Branches.Spelled : List Char → Branches → List Char → Prop
  | none {before : List Char} : Branches.Spelled before .none []
  | otherwise {before tag inner : List Char} {body : List Node} (htag : WordTag "else" tag)
      (hbody : Node.SpelledAll (before ++ tag) body inner) :
      Branches.Spelled before (.otherwise body) (tag ++ inner)
  | when {before tag inner tail : List Char} {test : Condition} {body : List Node}
      {rest : Branches} (htest : PhraseTag "elif" (Condition.Spelled source) before test tag)
      (hbody : Node.SpelledAll (before ++ tag) body inner)
      (hrest : Branches.Spelled (before ++ tag ++ inner) rest tail) :
      Branches.Spelled before (.when test body rest) (tag ++ (inner ++ tail))

end

end Layouts

/-! ## Reading expressions -/

section Reads

variable {source : String} {before : List Char}

theorem reads_string :
    Reads source before quotedString fun term cs _ => term.Spelled cs := by
  refine .tracked (.bind_pure (.lexeme lossless_quoted finds_quoted) ?_)
  rintro lexeme cs rest ⟨rfl, quote, body, hquote, hbody, rfl⟩
  rw [stringOfQuoted_cons]
  exact .string hquote hbody

theorem reads_number : Reads source before number fun term cs _ => term.Spelled cs := by
  refine .tracked (.bind_pure (.lexeme lossless_number finds_number) ?_)
  rintro lexeme cs rest ⟨rfl, hdecimal⟩
  exact .number hdecimal

theorem reads_bool : Reads source before boolLiteral fun term cs _ => term.Spelled cs := by
  refine .tracked (.bind_pure (.lexeme
    ((lossless_keyword _).either (lossless_keyword _))
    ((finds_keyword _).either (finds_keyword _))) ?_)
  rintro lexeme cs rest ⟨rfl, rfl | rfl⟩
  · exact .bool true
  · exact .bool false

theorem reads_none : Reads source before noneLiteral fun term cs _ => term.Spelled cs := by
  refine .tracked (.bind_pure (.lexeme (lossless_keyword _) (finds_keyword _)) ?_)
  rintro lexeme cs rest ⟨rfl, rfl⟩
  exact .nothing

theorem reads_path : Reads source before path fun term cs _ => term.Spelled cs := by
  refine .tracked (.bind_pure (.lexeme lossless_path finds_path) ?_)
  rintro lexeme cs rest ⟨rfl, p, hp, rfl⟩
  rw [String.ofList_toList, hp.ofDotted_key]
  exact .variable hp

theorem reads_operand :
    Reads source before operand fun o cs _ => o.Spelled source before cs := by
  refine .bind_position (.bind_pure ?_ fun term cs rest hterm => ⟨hterm, rfl⟩)
  exact .orElse reads_string (.orElse reads_number (.orElse reads_bool
    (.orElse reads_none reads_path)))

theorem reads_identifier :
    Reads source before identifier fun name cs _ => IsIdentifier cs ∧ name = String.ofList cs := by
  refine .tracked (.bind_pure (.lexeme lossless_identifier finds_identifier) ?_)
  rintro lexeme cs rest ⟨rfl, hname⟩
  exact ⟨hname, rfl⟩

theorem reads_argument :
    Reads source before argument fun o cs _ => ∃ inner,
      o.Spelled source (before ++ ":".toList) inner ∧ cs = ":".toList ++ inner := by
  refine .bind (.symbol ":") fun _ colon => reads_operand.imp ?_
  rintro o cs rest ho rfl
  exact ⟨cs, ho, rfl⟩

theorem reads_filterCall :
    Reads source before filterCall fun call cs _ => call.Spelled source before cs := by
  refine .tracked (.bind_position (.bind reads_identifier fun name cs =>
    .bind_pure (.opt reads_argument) ?_))
  rintro arg ds rest (⟨o, rfl, inner, ho, rfl⟩ | ⟨rfl, rfl⟩) ⟨hname, rfl⟩
  · exact .withArg hname ho
  · rw [List.append_nil]
    exact .plain hname

theorem reads_pipe (before : List Char) :
    Reads source before pipe fun call cs _ => call.Piped source before cs := by
  refine .bind .blanks fun _ left => .bind (.symbol "|") fun _ bar => .bind .blanks fun _ right =>
    reads_filterCall.imp ?_
  rintro call inner rest hcall hright rfl hleft
  exact ⟨left, right, inner, hleft, hright, hcall, rfl⟩

theorem reads_filterExpression :
    Reads source before filterExpression fun e cs _ => e.Spelled source before cs := by
  refine .tracked (.bind reads_operand fun base cs => .bind_pure (.many reads_pipe _) ?_)
  rintro filters ds rest hfilters hbase
  exact ⟨cs, ds, hbase, hfilters, rfl⟩

theorem reads_negation :
    Reads source before negation fun _ cs _ => ∃ spaces, spaces ≠ [] ∧ IsBlank spaces ∧
      cs = "not".toList ++ spaces := by
  refine .tracked (.bind (.symbol "not") fun _ word => Reads.blanks1.imp ?_)
  rintro _ spaces rest ⟨hne, hspaces⟩ rfl
  exact ⟨spaces, hne, hspaces, rfl⟩

theorem reads_condition (before : List Char) :
    Reads source before condition fun test cs _ => test.Spelled source before cs := by
  refine .tracked (.bind (.opt reads_negation) fun negated cs =>
    .bind_pure reads_filterExpression ?_)
  rintro e ds rest he (⟨_, rfl, spaces, hne, hspaces, rfl⟩ | ⟨rfl, rfl⟩)
  · exact .negated hne hspaces he
  · rw [List.append_nil] at he
    exact .plain he

/-! ## Reading tags -/

theorem reads_tagOpen : Reads source before tagOpen fun _ cs _ => TagOpen cs := by
  refine .bind (.symbol _) fun _ mark => Reads.blanks.imp ?_
  rintro _ right rest hright rfl
  exact ⟨right, hright, rfl⟩

theorem reads_tagClose : Reads source before tagClose fun _ cs _ => TagClose cs := by
  refine .bind .blanks fun _ left => (Reads.symbol _).imp ?_
  rintro _ mark rest rfl hleft
  exact ⟨left, hleft, rfl⟩

theorem reads_wordTag (word : String) :
    Reads source before (wordTag word) fun _ cs _ => WordTag word cs := by
  refine .bind reads_tagOpen fun _ opening => .bind (.symbol word) fun _ mark =>
    reads_tagClose.imp ?_
  rintro _ closing rest hclosing rfl hopening
  exact ⟨opening, closing, hopening, hclosing, rfl⟩

theorem reads_conditionTag (word : String) :
    Reads source before (conditionTag word) fun test cs _ =>
      PhraseTag word (Condition.Spelled source) before test cs := by
  refine .bind reads_tagOpen fun _ opening => .bind (.symbol word) fun _ mark =>
    .bind .blanks1 fun _ spaces => .bind (reads_condition _) fun test inner =>
    .bind_pure reads_tagClose ?_
  rintro _ closing rest hclosing htest ⟨hne, hspaces⟩ rfl hopening
  exact ⟨opening, spaces, inner, closing, hopening, hne, hspaces, htest, hclosing, rfl⟩

/-! ## Reading nodes -/

theorem reads_textNode :
    Reads source before textNode fun n cs _ => n.Spelled source before cs := by
  refine .bind_position (.bind_pure (.tracked (.lexeme lossless_text finds_text)) ?_)
  rintro content cs rest ⟨rfl, hne, hcontent⟩
  exact .text hne hcontent

theorem reads_commentNode :
    Reads source before commentNode fun n cs _ => n.Spelled source before cs := by
  refine .bind_position (.bind_pure (.tracked (.lexeme lossless_comment finds_comment)) ?_)
  rintro lexeme cs rest ⟨rfl, inner, hinner, rfl⟩
  exact .comment hinner

theorem reads_outputNode :
    Reads source before outputNode fun n cs _ => n.Spelled source before cs := by
  refine .tracked (.bind_position (.bind (.symbol _) fun _ mark => .bind .blanks fun _ left =>
    .bind reads_filterExpression fun expr inner => .bind .blanks fun _ right =>
    .bind_pure (.symbol _) ?_))
  rintro _ mark' rest rfl hright hexpr hleft rfl
  exact .output hleft hexpr hright

section Bodies

/-! A body is read with some reader; whatever that reader reads is laid out as it should be. -/

variable {body : Reader (List Node)}
  (hbody : ∀ before, Reads source before body fun ns cs _ => Node.SpelledAll source before ns cs)

include hbody

theorem reads_elifBranch :
    Reads source before (elifBranch body) fun branch cs _ => ∃ tag inner,
      PhraseTag "elif" (Condition.Spelled source) before branch.1 tag ∧
      Node.SpelledAll source (before ++ tag) branch.2 inner ∧ cs = tag ++ inner := by
  refine .tracked (.bind (reads_conditionTag "elif") fun test tag => .bind_pure (hbody _) ?_)
  rintro ns inner rest hinner htag
  exact ⟨tag, inner, htag, hinner, rfl⟩

theorem reads_elseBranch :
    Reads source before (elseBranch body) fun ns cs _ => ∃ tag inner, WordTag "else" tag ∧
      Node.SpelledAll source (before ++ tag) ns inner ∧ cs = tag ++ inner := by
  refine .tracked (.bind (reads_wordTag "else") fun _ tag => (hbody _).imp ?_)
  rintro ns inner rest hinner htag
  exact ⟨tag, inner, htag, hinner, rfl⟩

/-- The further branches of a choice are read one behind the other. -/
theorem reads_branches (n : Nat) (before : List Char) :
    Reads source before (branches body n) fun b cs _ => b.Spelled source before cs := by
  induction n generalizing before with
  | zero => exact .pure fun rest => .none
  | succ n ih =>
    refine .orElse (.bind (reads_elifBranch hbody) fun branch cs => .bind_pure (ih _) ?_)
      (.orElse (.bind_pure (reads_elseBranch hbody) ?_) (.pure fun rest => .none))
    · -- The next branch stands behind the tag and the body of this one.
      rintro b tail rest hb ⟨tag, inner, htag, hinner, rfl⟩
      rw [← List.append_assoc] at hb
      rw [List.append_assoc]
      exact .when htag hinner hb
    · rintro ns cs rest ⟨tag, inner, htag, hinner, rfl⟩
      exact .otherwise htag hinner

theorem reads_conditionalNode (n : Nat) :
    Reads source before (conditionalNode body n) fun node cs _ =>
      node.Spelled source before cs := by
  refine .tracked (.bind_position (.bind (reads_conditionTag "if") fun test tag =>
    .bind (hbody _) fun ns inner => .bind (reads_branches hbody n _) fun b tail =>
    .bind_pure (reads_wordTag "endif") ?_))
  rintro _ closing rest hclosing hb hinner htag
  exact .conditional htag hinner hb hclosing

theorem reads_emptyBranch :
    Reads source before (emptyBranch body) fun ns cs _ =>
      Node.SpelledEmpty source before (some ns) cs := by
  refine .tracked (.bind (reads_wordTag "empty") fun _ tag => (hbody _).imp ?_)
  rintro ns inner rest hinner htag
  exact .some htag hinner

theorem reads_loopNode :
    Reads source before (loopNode body) fun node cs _ => node.Spelled source before cs := by
  refine .tracked (.bind_position (.bind reads_tagOpen fun _ opening =>
    .bind (.symbol "for") fun _ word => .bind .blanks1 fun _ spaces =>
    .bind reads_identifier fun binding name => .bind .blanks1 fun _ left =>
    .bind (.symbol "in") fun _ word' => .bind .blanks1 fun _ right =>
    .bind reads_filterExpression fun iterable items => .bind reads_tagClose fun _ closing =>
    .bind (hbody _) fun ns inner => .bind (.opt (reads_emptyBranch hbody)) fun empty tail =>
    .bind_pure (reads_wordTag "endfor") ?_))
  rintro _ last rest hlast hempty hinner hclosing hiterable ⟨hright, hright'⟩ rfl ⟨hleft, hleft'⟩
    ⟨hname, rfl⟩ ⟨hspaces, hspaces'⟩ rfl hopening
  -- The tag as a whole, with everything between its marks.
  let head := name ++ (left ++ ("in".toList ++ (right ++ items)))
  let tag := opening ++ ("for".toList ++ (spaces ++ (head ++ closing)))
  have hhead : LoopHead source (before ++ opening ++ "for".toList ++ spaces)
      (String.ofList name, iterable) head :=
    ⟨name, left, right, items, hname, rfl, hleft, hleft', hright, hright', hiterable, rfl⟩
  have htag : PhraseTag "for" (LoopHead source) before (String.ofList name, iterable) tag :=
    ⟨opening, spaces, head, closing, hopening, hspaces, hspaces', hhead, hclosing, rfl⟩
  -- The parts were read one by one, so their characters are grouped to the left.
  have hempty' : Node.SpelledEmpty source (before ++ tag ++ inner) empty tail := by
    simp only [tag, head, List.append_assoc] at hempty ⊢
    rcases hempty with ⟨ns', rfl, hempty⟩ | ⟨rfl, rfl⟩
    · exact hempty
    · exact .none
  have hinner' : Node.SpelledAll source (before ++ tag) ns inner := by
    simpa only [tag, head, List.append_assoc] using hinner
  have hnode := Node.Spelled.loop htag hinner' hempty' hlast
  simpa only [tag, head, List.append_assoc] using hnode

theorem reads_filteredNode :
    Reads source before (filteredNode body) fun node cs _ => node.Spelled source before cs := by
  refine .tracked (.bind_position (.bind reads_tagOpen fun _ opening =>
    .bind (.symbol "filter") fun _ word => .bind .blanks1 fun _ spaces =>
    .bind reads_filterCall fun call name => .bind reads_tagClose fun _ closing =>
    .bind (hbody _) fun ns inner => .bind_pure (reads_wordTag "endfilter") ?_))
  rintro _ last rest hlast hinner hclosing hcall ⟨hspaces, hspaces'⟩ rfl hopening
  let tag := opening ++ ("filter".toList ++ (spaces ++ (name ++ closing)))
  have htag : PhraseTag "filter" (FilterCall.Spelled source) before call tag :=
    ⟨opening, spaces, name, closing, hopening, hspaces, hspaces', hcall, hclosing, rfl⟩
  have hinner' : Node.SpelledAll source (before ++ tag) ns inner := by
    simpa only [tag, List.append_assoc] using hinner
  have hnode := Node.Spelled.filtered htag hinner' hlast
  simpa only [tag, List.append_assoc] using hnode

/-- A node is laid out on the characters that were read for it, if bodies are. -/
theorem reads_node (n : Nat) :
    Reads source before (node body n) fun node cs _ => node.Spelled source before cs :=
  .orElse reads_commentNode <| .orElse reads_outputNode <|
    .orElse (reads_conditionalNode hbody n) <| .orElse (reads_loopNode hbody) <|
    .orElse (reads_filteredNode hbody) reads_textNode

end Bodies

/-- Nodes are laid out on the characters that were read for them, one behind the other. -/
theorem reads_nodes (n : Nat) (before : List Char) :
    Reads source before (nodes n) fun ns cs _ => Node.SpelledAll source before ns cs := by
  induction n generalizing before with
  | zero => exact .pure fun rest => .nil
  | succ n ih =>
    refine .orElse (.bind (reads_node ih n) fun first cs => .bind_pure (ih _) ?_)
      (.pure fun rest => .nil)
    exact fun ns ds rest hns hfirst => .cons hfirst hns

theorem reads_endOfInput :
    Reads source before endOfInput fun _ cs rest => cs = [] ∧ rest = [] := by
  intro ahead a j _ hread
  cases ahead with
  | nil =>
    obtain ⟨rfl, rfl⟩ := Prod.mk.inj (Option.some.inj hread)
    exact ⟨[], rfl, by rw [List.append_nil], rfl, rfl⟩
  | cons c ahead => simp [endOfInput] at hread

theorem reads_template :
    Reads source before template fun t cs rest =>
      Node.SpelledAll source before t cs ∧ rest = [] := by
  intro ahead
  -- The fuel depends on what lies ahead; the reader is right with any fuel.
  have hread (n : Nat) : Reads source before
      (tracked .template do
        let found ← nodes n
        tracked .endOfInput endOfInput
        return found)
      fun t cs rest => Node.SpelledAll source before t cs ∧ rest = [] := by
    refine .tracked (.bind (reads_nodes n before) fun found cs =>
      .bind_pure (.tracked reads_endOfInput) ?_)
    rintro _ ds rest ⟨rfl, rfl⟩ hfound
    rw [List.append_nil]
    exact ⟨hfound, rfl⟩
  exact hread (ahead.length + 1) ahead

end Reads

/-- **A template is laid out on its whole source**: the characters of its nodes, one behind the
other, are the source, and every position is that of the byte where the part starts. -/
theorem spelledAll_of_parse {source : String} {t : Template} (h : Template.parse source = .ok t) :
    Node.SpelledAll source [] t source.toList := by
  obtain ⟨j, hread⟩ := Template.parse_eq_ok_iff.mp h
  have hinput : Input.ofSource source = ⟨Cursor.start.past [], source.toList⟩ := rfl
  rw [hinput] at hread
  obtain ⟨cs, hsplit, -, hspelled, hleft⟩ := reads_template source.toList t j rfl hread
  rw [hleft, List.append_nil] at hsplit
  rwa [hsplit]

/-- A source with two lines, a conditional in it and text behind it. -/
theorem spelledAll_of_parse_lines :
    let source :=
      "é\n\x7b%if not a|f:'x'%\x7d\x7b\x7b b \x7d\x7d\x7b%else%\x7d\x7b##\x7d\x7b%endif%\x7dy"
    ∃ t, Template.parse source = .ok t ∧
      t.map Node.pos = [some ⟨1, 1⟩, some ⟨2, 1⟩, some ⟨2, 47⟩] ∧
      Node.SpelledAll source [] t source.toList := by
  intro source
  have hread : (Template.parse source).toOption.map (·.map Node.pos) =
      some [some ⟨1, 1⟩, some ⟨2, 1⟩, some ⟨2, 47⟩] := by
    decide +kernel
  -- Only what was computed above is used of the source, so that it is not parsed again.
  generalize source = source at hread ⊢
  cases hparse : Template.parse source with
  | error e =>
    rw [hparse] at hread
    cases hread
  | ok t =>
    rw [hparse] at hread
    exact ⟨t, rfl, Option.some.inj hread, spelledAll_of_parse hparse⟩

end Stencil
