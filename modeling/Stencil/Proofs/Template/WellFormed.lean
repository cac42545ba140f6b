import Stencil.Proofs.Program.Faithful
import Stencil.Proofs.Template.Positions
import Stencil.Proofs.Template.Print

/-!
# Parsed templates are well-formed

A tree can be built from any parts, but not every tree is read from a source. What is read is
well-formed: it can be printed and read back. The compiler relies on a part of this, as its table of
variables is looked up by key, and only the paths that can be spelled have keys of their own.

The layout of a tree tells which characters a part is spelled by, but not why reading stopped there.
Readers go as far as they can and their choices are ordered. So a text goes up to the next tag, and
no second text can follow it; and a variable is read only where no literal can be, so that none is
called `true`. The latter needs a look at what follows. In `true.` the word is read as a variable,
since a keyword does not end before a dot; but no template goes on with that dot.

## Main definitions

* `DotAhead`: a dot comes next, where an operand may be a reserved word
* `Node.Greedy`, `Node.GreedyAll`: well-formed nodes that were read up to the characters behind them

## Main results

* `reads_wellFormed_operand`, `reads_wellFormed_filterExpression`: expressions are well-formed, or a
  dot comes next
* `Node.GreedyAll.cons`: one more node in front of others
* `reads_greedy_node`, `reads_greedy_nodes`: nodes are well-formed, and read as far as they go
* `Path.Regular.eq_of_key_eq`: paths that can be spelled are told apart by their keys
* `wellFormed_of_parse`: every parsed template is well-formed
-/

namespace Stencil

open Grammar Scan Reader

/-! ## Reserved words -/

namespace Grammar

/-- A dot comes next. -/
def DotAhead (rest : List Char) : Prop :=
  rest.head? = some '.'

/-- Spaces are no dots; so none comes next, if there is something else behind the spaces. -/
theorem not_dotAhead_of_isBlank {left : List Char} (hleft : IsBlank left) {c : Char} (hc : c ≠ '.')
    (rest : List Char) : ¬ DotAhead (left ++ c :: rest) := by
  cases left with
  | nil => exact fun hdot => hc (Option.some.inj hdot)
  | cons d left =>
    intro hdot
    obtain rfl := Option.some.inj hdot
    exact absurd (hleft '.' List.mem_cons_self) (by decide)

theorem Scan.either_eq_none {first second : Scanner} {cs : List Char}
    (h : either first second cs = none) : first cs = none ∧ second cs = none := by
  rw [either] at h
  split at h
  · cases h
  · next hfirst => exact ⟨hfirst, h⟩

/-- A word that is read as a path and not as a keyword is followed by a dot: it is read as a name,
and so up to its last character. -/
theorem Scan.dotAhead_of_keyword_eq_none {word rest : List Char} (hdot : '.' ∉ word)
    (hpath : path (word ++ rest) = some (word, rest))
    (hkeyword : keyword word (word ++ rest) = none) : DotAhead rest := by
  have hstops := stops_of_path hpath hdot
  cases rest with
  | nil =>
    rw [keyword_append word (stops_nil _)] at hkeyword
    cases hkeyword
  | cons c rest =>
    rw [stops_cons] at hstops
    by_cases hc : c = '.'
    · rw [hc]
      rfl
    · have hend : Stops isPathPart (c :: rest) := by
        rw [stops_cons]
        simp [isPathPart, hstops, hc]
      rw [keyword_append word hend] at hkeyword
      cases hkeyword

/-- Where neither a truth value nor the literal for no value is read, no keyword is found. -/
theorem keywords_eq_none {i : Input} (hbool : (boolLiteral i).result = none)
    (hnone : (noneLiteral i).result = none) :
    ∀ word ∈ ["true", "false", "none"], keyword word.toList i.rest = none := by
  simp only [boolLiteral, noneLiteral, result_tracked, result_bind, result_lexeme, result_pure,
    Option.bind_eq_none_iff, Option.map_eq_some_iff] at hbool hnone
  have htruth := either_eq_none (Option.eq_none_iff_forall_ne_some.mpr fun found hfound =>
    nomatch hbool _ ⟨found, hfound, rfl⟩)
  have hnothing : keyword "none".toList i.rest = none :=
    Option.eq_none_iff_forall_ne_some.mpr fun found hfound => nomatch hnone _ ⟨found, hfound, rfl⟩
  rw [List.forall_mem_cons, List.forall_mem_cons, List.forall_mem_singleton]
  exact ⟨htruth.1, htruth.2, hnothing⟩

end Grammar

section Reads

variable {source : String} {before : List Char}

/-! ## Expressions -/

/-- What is read as a literal is well-formed, whatever comes next. -/
theorem reads_wellFormed_literal {rule : Rule} {scan : Scanner} {value : List Char → Value}
    {pos : Option Position}
    (hspelled : Reads source before (tracked rule do
      let found ← lexeme scan
      return Term.literal (value found)) fun term cs _ => term.Spelled cs) :
    Reads source before (tracked rule do
      let found ← lexeme scan
      return Term.literal (value found)) fun term _ rest =>
        (⟨term, pos⟩ : Operand).WellFormed ∨ DotAhead rest := by
  intro ahead term j hsource hread
  obtain ⟨cs, hsplit, hcursor, hterm⟩ := hspelled ahead term j hsource hread
  rw [result_tracked, result_bind, Option.bind_eq_some_iff] at hread
  obtain ⟨⟨found, k⟩, -, hvalue⟩ := hread
  obtain rfl := (Prod.mk.inj (Option.some.inj hvalue)).1
  refine ⟨cs, hsplit, hcursor, .inl ?_⟩
  generalize value found = v at hterm
  cases hterm <;> trivial

/-- **An operand is well-formed, or a dot comes next**: a variable is read only where no literal can
be, so it is called like one only if a keyword cannot end there. -/
theorem reads_wellFormed_operand :
    Reads source before operand fun x _ rest => x.WellFormed ∨ DotAhead rest := by
  refine .bind_position (.bind_pure (P := fun term (_ rest : List Char) =>
    (⟨term, some (.behind source before)⟩ : Operand).WellFormed ∨ DotAhead rest)
    ?_ fun term cs rest h => h)
  intro ahead term j hsource hread
  simp only [result_orElse, Option.or_eq_some_iff] at hread
  rcases hread with hread | ⟨-, hread | ⟨-, hread | ⟨hbool, hread | ⟨hnone, hread⟩⟩⟩⟩
  · exact reads_wellFormed_literal reads_string ahead term j hsource hread
  · exact reads_wellFormed_literal reads_number ahead term j hsource hread
  · exact reads_wellFormed_literal reads_bool ahead term j hsource hread
  · exact reads_wellFormed_literal reads_none ahead term j hsource hread
  · -- A path was found where no keyword was.
    have hscanned : Reads source before path fun term cs rest => ∃ p : Path, p.Regular ∧
        term = .variable p ∧ cs = p.key.toList ∧ Scan.path (cs ++ rest) = some (cs, rest) := by
      refine .tracked (.bind_pure (.scanned lossless_path) ?_)
      rintro lexeme cs rest ⟨rfl, hscan⟩
      obtain ⟨p, hp, rfl⟩ := finds_path _ _ _ hscan
      rw [String.ofList_toList, hp.ofDotted_key]
      exact ⟨p, hp, rfl, rfl, hscan⟩
    obtain ⟨cs, rfl, hcursor, p, hp, rfl, rfl, hpath⟩ := hscanned ahead term j hsource hread
    refine ⟨_, rfl, hcursor, ?_⟩
    by_cases hreserved : p ∈ [⟨"true", []⟩, ⟨"false", []⟩, ⟨"none", []⟩]
    · have hword : p.key ∈ ["true", "false", "none"] ∧ '.' ∉ p.key.toList := by
        clear hpath hread hnone hbool hsource hcursor hp
        revert p
        decide
      exact .inr (dotAhead_of_keyword_eq_none hword.2 hpath
        (keywords_eq_none hbool hnone p.key hword.1))
    · exact .inl ⟨hp, hreserved⟩

theorem reads_wellFormed_argument :
    Reads source before argument fun x _ rest => x.WellFormed ∨ DotAhead rest :=
  .bind (.symbol ":") fun _ _ => reads_wellFormed_operand.imp fun _ _ _ hx _ => hx

theorem reads_wellFormed_filterCall :
    Reads source before filterCall fun call _ rest => call.WellFormed ∨ DotAhead rest := by
  refine .tracked (.bind_position (.bind reads_identifier fun name cs =>
    .bind_pure (.opt reads_wellFormed_argument) ?_))
  rintro arg ds rest harg ⟨hname, rfl⟩
  have hname' : IsIdentifier (String.ofList cs).toList := by rwa [String.toList_ofList]
  rcases harg with ⟨x, rfl, hx | hdot⟩ | ⟨rfl, rfl⟩
  · exact .inl ⟨hname', fun y hy => Option.mem_some_iff.mp hy ▸ hx⟩
  · exact .inr hdot
  · exact .inl ⟨hname', nofun⟩

/-- A bar is not a dot; so what stands before a bar is well-formed. -/
theorem reads_wellFormed_pipe (before : List Char) :
    Reads source before pipe fun call cs rest =>
      (call.WellFormed ∨ DotAhead rest) ∧ ¬ DotAhead (cs ++ rest) := by
  refine .bind .blanks fun _ left => .bind (.symbol "|") fun _ bar => .bind .blanks fun _ right =>
    reads_wellFormed_filterCall.imp ?_
  rintro call inner rest hcall - rfl hleft
  refine ⟨hcall, ?_⟩
  rw [List.append_assoc]
  exact not_dotAhead_of_isBlank hleft (by decide) (right ++ inner ++ rest)

/-- **An expression is well-formed, or a dot comes next.** -/
theorem reads_wellFormed_filterExpression :
    Reads source before filterExpression fun e _ rest => e.WellFormed ∨ DotAhead rest := by
  -- Of the calls it is known, too, that no dot comes before them.
  refine .tracked (.bind reads_wellFormed_operand fun base cs => .bind_pure (.manyWith
    (B := fun _ calls ds rest =>
      ((∀ call ∈ calls, call.WellFormed) ∨ DotAhead rest) ∧ (DotAhead (ds ++ rest) → DotAhead rest))
    reads_wellFormed_pipe ?_ ?_ _) ?_)
  · exact fun _ rest => ⟨.inl nofun, id⟩
  · rintro - call cs calls ds rest ⟨hcall, hbar⟩ ⟨hcalls | hdot, hbars⟩
    · rw [← List.append_assoc] at hbar
      refine ⟨?_, fun hdot => absurd hdot hbar⟩
      rcases hcall with hcall | hdot
      · exact .inl (List.forall_mem_cons.mpr ⟨hcall, hcalls⟩)
      · exact .inr (hbars hdot)
    · exact ⟨.inr hdot, fun _ => hdot⟩
  · rintro calls ds rest ⟨hcalls | hdot, hbars⟩ (hbase | hdot)
    · exact .inl ⟨hbase, hcalls⟩
    · exact .inr (hbars hdot)
    · exact .inr hdot
    · exact .inr (hbars hdot)

theorem reads_wellFormed_condition (before : List Char) :
    Reads source before condition fun test _ rest => test.test.WellFormed ∨ DotAhead rest :=
  .tracked (.bind (.opt reads_negation) fun _ _ =>
    .bind_pure reads_wellFormed_filterExpression fun _ _ _ he _ => he)

/-! ## Tags -/

theorem TagClose.not_dotAhead {cs : List Char} (h : TagClose cs) (rest : List Char) :
    ¬ DotAhead (cs ++ rest) := by
  obtain ⟨left, hleft, rfl⟩ := h
  rw [List.append_assoc]
  exact not_dotAhead_of_isBlank hleft (by decide) ('}' :: rest)

theorem TagOpen.ne_nil {cs : List Char} (h : TagOpen cs) : cs ≠ [] := by
  obtain ⟨right, -, rfl⟩ := h
  exact List.append_ne_nil_of_left_ne_nil (by decide) right

theorem WordTag.ne_nil {word : String} {cs : List Char} (h : WordTag word cs) : cs ≠ [] := by
  obtain ⟨opening, closing, hopening, -, rfl⟩ := h
  exact List.append_ne_nil_of_left_ne_nil hopening.ne_nil _

/-- The closing mark of a tag is no dot, so the test is well-formed. -/
theorem reads_wellFormed_conditionTag (word : String) :
    Reads source before (conditionTag word) fun test cs _ =>
      test.test.WellFormed ∧ cs ≠ [] := by
  refine .bind reads_tagOpen fun _ opening => .bind (.symbol word) fun _ mark =>
    .bind .blanks1 fun _ spaces => .bind (reads_wellFormed_condition _) fun test inner =>
    .bind_pure reads_tagClose ?_
  rintro _ closing rest hclosing (htest | hdot) - - hopening
  · exact ⟨htest, List.append_ne_nil_of_left_ne_nil hopening.ne_nil _⟩
  · exact absurd hdot (hclosing.not_dotAhead rest)

end Reads

/-! ## Nodes and what is behind them -/

namespace Node

/-- A well-formed node that was read from the characters `cs` with `rest` behind them: a text has
gone up to the next opening. -/
structure Greedy (n : Node) (cs rest : List Char) : Prop where
  wellFormed : n.WellFormed
  nonempty : cs ≠ []
  text : ∀ content ∈ n.text?, ¬ opens (cs ++ rest) ∧ Borders content.toList rest

/-- Well-formed nodes that were read from the characters `cs` with `rest` behind them. If anything
is behind them, then they are as well-formed as in a block. -/
structure GreedyAll (ns : List Node) (cs rest : List Char) : Prop where
  wellFormed : WellFormedAll (!rest.isEmpty) ns
  nonempty : ns ≠ [] → cs ≠ []
  text : ∀ n ∈ ns.head?, n.text? ≠ none → ¬ opens (cs ++ rest)

variable {n : Node} {ns : List Node} {cs ds rest : List Char}

/-- A node that is no text has only to be well-formed. -/
theorem Greedy.of_text?_eq_none (hn : n.WellFormed) (hne : cs ≠ []) (htext : n.text? = none) :
    n.Greedy cs rest where
  wellFormed := hn
  nonempty := hne
  text := by
    rw [htext]
    exact nofun

/-- No text follows a text, and nothing follows a brace at the end of one. -/
theorem Greedy.joins (hn : n.Greedy cs (ds ++ rest)) (hns : GreedyAll ns ds rest) :
    n.Joins (!rest.isEmpty) ns := by
  intro content hcontent
  obtain ⟨-, hborders⟩ := hn.text content hcontent
  constructor
  · intro next hnext
    have hne : ns ≠ [] := by
      rintro rfl
      cases hnext
    cases htext : next.text? with
    | none => rfl
    | some other =>
      -- The next text starts where something opens or nothing is left, and it does neither.
      rcases hborders with hend | ⟨hopens, -⟩
      · exact absurd (List.append_eq_nil_iff.mp hend).1 (hns.nonempty hne)
      · exact absurd hopens (hns.text next hnext (by simp [htext]))
  · intro hbrace
    rcases hborders with hend | ⟨-, hlast⟩
    · obtain ⟨rfl, rfl⟩ := List.append_eq_nil_iff.mp hend
      exact ⟨Classical.byContradiction fun hne => hns.nonempty hne rfl, rfl⟩
    · exact absurd hbrace hlast

/-- **One more node in front**, with the others behind it. -/
theorem GreedyAll.cons (hn : n.Greedy cs (ds ++ rest)) (hns : GreedyAll ns ds rest) :
    GreedyAll (n :: ns) (cs ++ ds) rest where
  wellFormed := ⟨hn.wellFormed, hn.joins hns, hns.wellFormed⟩
  nonempty := fun _ => List.append_ne_nil_of_left_ne_nil hn.nonempty ds
  text := by
    intro m hm htext
    obtain rfl := Option.some.inj hm
    obtain ⟨content, hcontent⟩ := Option.ne_none_iff_exists'.mp htext
    rw [List.append_assoc]
    exact (hn.text content hcontent).1

theorem GreedyAll.nil (rest : List Char) : GreedyAll [] [] rest where
  wellFormed := trivial
  nonempty := nofun
  text := nofun

/-- Nodes with a tag behind them may stand in a block. -/
theorem GreedyAll.nested (h : GreedyAll ns cs rest) (hrest : rest ≠ []) :
    WellFormedAll true ns := by
  have hwell := h.wellFormed
  rwa [List.isEmpty_eq_false_iff.mpr hrest] at hwell

end Node

section Reads

variable {source : String} {before : List Char}

/-! ## Reading nodes -/

theorem reads_greedy_textNode : Reads source before textNode Node.Greedy := by
  refine .bind_position (.bind_pure (.tracked (.scanned lossless_text)) ?_)
  rintro content cs rest ⟨rfl, hscan⟩
  obtain ⟨hne, hopening⟩ := finds_text _ _ _ hscan
  refine ⟨⟨fun hempty => hne ?_, by rwa [String.toList_ofList]⟩, hne, ?_⟩
  · rw [← String.toList_ofList (l := content), hempty]
    rfl
  · intro text htext
    obtain rfl := Option.mem_some_iff.mp htext
    rw [String.toList_ofList]
    exact borders_of_text hscan

theorem reads_greedy_commentNode : Reads source before commentNode Node.Greedy := by
  refine .bind_position (.bind_pure (.tracked (.lexeme lossless_comment finds_comment)) ?_)
  rintro lexeme cs rest ⟨rfl, inner, -, rfl⟩
  exact .of_text?_eq_none trivial (List.cons_ne_nil _ _) rfl

theorem reads_greedy_outputNode : Reads source before outputNode Node.Greedy := by
  refine .tracked (.bind_position (.bind (.symbol _) fun _ mark => .bind .blanks fun _ left =>
    .bind reads_wellFormed_filterExpression fun expr inner => .bind .blanks fun _ right =>
    .bind_pure (.symbol _) ?_))
  rintro _ mark' rest rfl hright (hexpr | hdot) - rfl
  · exact .of_text?_eq_none hexpr (by simp) rfl
  · rw [List.append_assoc] at hdot
    exact absurd hdot (not_dotAhead_of_isBlank hright (by decide) ('}' :: rest))

section Bodies

/-! A body is read with some reader, which goes as far as it can. -/

variable {body : Reader (List Node)} (hbody : ∀ before, Reads source before body Node.GreedyAll)

include hbody

theorem reads_greedy_elifBranch :
    Reads source before (elifBranch body) fun branch _ rest =>
      branch.1.test.WellFormed ∧ ∃ inner, Node.GreedyAll branch.2 inner rest := by
  refine .tracked (.bind (reads_wellFormed_conditionTag "elif") fun test tag =>
    .bind_pure (hbody _) ?_)
  rintro ns inner rest hinner ⟨htest, -⟩
  exact ⟨htest, inner, hinner⟩

/-- A body behind a tag that consists of one word. -/
theorem reads_greedy_wordTag (rule : Rule) (word : String) :
    Reads source before (tracked rule do wordTag word; body) fun ns _ rest =>
      ∃ inner, Node.GreedyAll ns inner rest := by
  refine .tracked (.bind (reads_wordTag word) fun _ tag => (hbody _).imp ?_)
  rintro ns inner rest hinner -
  exact ⟨inner, hinner⟩

/-- Branches are well-formed if anything is behind them: a tag closes each of their bodies. -/
theorem reads_greedy_branches (n : Nat) (before : List Char) :
    Reads source before (branches body n) fun b _ rest => rest ≠ [] → b.WellFormed := by
  induction n generalizing before with
  | zero => exact .pure fun rest _ => trivial
  | succ n ih =>
    refine .orElse (.bind (reads_greedy_elifBranch hbody) fun branch cs => .bind_pure (ih _) ?_)
      (.orElse (.bind_pure (reads_greedy_wordTag hbody .elseBranch "else") ?_)
        (.pure fun rest _ => trivial))
    · rintro b tail rest hb ⟨htest, inner, hinner⟩ hrest
      exact ⟨htest, hinner.nested (List.append_ne_nil_of_right_ne_nil tail hrest), hb hrest⟩
    · rintro ns cs rest ⟨inner, hinner⟩ hrest
      exact hinner.nested hrest

theorem reads_greedy_conditionalNode (n : Nat) :
    Reads source before (conditionalNode body n) Node.Greedy := by
  refine .tracked (.bind_position (.bind (reads_wellFormed_conditionTag "if") fun test tag =>
    .bind (hbody _) fun ns inner => .bind (reads_greedy_branches hbody n _) fun b tail =>
    .bind_pure (reads_wordTag "endif") ?_))
  rintro _ closing rest hclosing hb hinner ⟨htest, htag⟩
  have hend : closing ++ rest ≠ [] := List.append_ne_nil_of_left_ne_nil hclosing.ne_nil rest
  rw [List.append_assoc] at hinner
  have hns := hinner.nested (List.append_ne_nil_of_right_ne_nil tail hend)
  exact .of_text?_eq_none ⟨trivial, htest, hns, hb hend⟩
    (List.append_ne_nil_of_left_ne_nil htag _) rfl

theorem reads_greedy_loopNode : Reads source before (loopNode body) Node.Greedy := by
  refine .tracked (.bind_position (.bind reads_tagOpen fun _ opening =>
    .bind (.symbol "for") fun _ word => .bind .blanks1 fun _ spaces =>
    .bind reads_identifier fun binding name => .bind .blanks1 fun _ left =>
    .bind (.symbol "in") fun _ word' => .bind .blanks1 fun _ right =>
    .bind reads_wellFormed_filterExpression fun iterable items =>
    .bind reads_tagClose fun _ closing => .bind (hbody _) fun ns inner =>
    .bind (.opt (reads_greedy_wordTag hbody .emptyBranch "empty")) fun empty tail =>
    .bind_pure (reads_wordTag "endfor") ?_))
  rintro _ last rest hlast hempty hinner hclosing hiterable - - - ⟨hname, rfl⟩ - - hopening
  have hend : last ++ rest ≠ [] := List.append_ne_nil_of_left_ne_nil hlast.ne_nil rest
  rw [List.append_assoc] at hinner
  have hns := hinner.nested (List.append_ne_nil_of_right_ne_nil tail hend)
  have hempty' : Node.WellFormedOpt empty := by
    rcases hempty with ⟨ns', rfl, inner', hinner'⟩ | ⟨rfl, -⟩
    · exact hinner'.nested hend
    · trivial
  have hname' : IsIdentifier (String.ofList name).toList := by rwa [String.toList_ofList]
  rcases hiterable with hiterable | hdot
  · exact .of_text?_eq_none ⟨hname', hiterable, hns, hempty'⟩
      (List.append_ne_nil_of_left_ne_nil hopening.ne_nil _) rfl
  · rw [List.append_assoc] at hdot
    exact absurd hdot (hclosing.not_dotAhead _)

theorem reads_greedy_filteredNode : Reads source before (filteredNode body) Node.Greedy := by
  refine .tracked (.bind_position (.bind reads_tagOpen fun _ opening =>
    .bind (.symbol "filter") fun _ word => .bind .blanks1 fun _ spaces =>
    .bind reads_wellFormed_filterCall fun call name => .bind reads_tagClose fun _ closing =>
    .bind (hbody _) fun ns inner => .bind_pure (reads_wordTag "endfilter") ?_))
  rintro _ last rest hlast hinner hclosing (hcall | hdot) - - hopening
  · have hns := hinner.nested (List.append_ne_nil_of_left_ne_nil hlast.ne_nil rest)
    exact .of_text?_eq_none ⟨hcall, hns⟩ (List.append_ne_nil_of_left_ne_nil hopening.ne_nil _) rfl
  · rw [List.append_assoc] at hdot
    exact absurd hdot (hclosing.not_dotAhead _)

/-- A node is well-formed and read as far as it goes, if bodies are. -/
theorem reads_greedy_node (n : Nat) : Reads source before (node body n) Node.Greedy :=
  .orElse reads_greedy_commentNode <| .orElse reads_greedy_outputNode <|
    .orElse (reads_greedy_conditionalNode hbody n) <| .orElse (reads_greedy_loopNode hbody) <|
    .orElse (reads_greedy_filteredNode hbody) reads_greedy_textNode

end Bodies

/-- **Nodes are well-formed and read as far as they go**, one behind the other. -/
theorem reads_greedy_nodes (n : Nat) (before : List Char) :
    Reads source before (nodes n) Node.GreedyAll := by
  induction n generalizing before with
  | zero => exact .pure Node.GreedyAll.nil
  | succ n ih =>
    refine .orElse (.bind (reads_greedy_node ih n) fun first cs => .bind_pure (ih _) ?_)
      (.pure Node.GreedyAll.nil)
    exact fun ns ds rest hns hfirst => hns.cons hfirst

/-- Nothing is behind a template, so it is well-formed outside of blocks. -/
theorem reads_wellFormed_template :
    Reads source before template fun t _ _ => t.WellFormed := by
  intro ahead
  -- The fuel depends on what lies ahead; the reader is right with any fuel.
  have hread (n : Nat) : Reads source before
      (tracked .template do
        let found ← nodes n
        tracked .endOfInput endOfInput
        return found) fun t _ _ => Template.WellFormed t := by
    refine .tracked (.bind (reads_greedy_nodes n before) fun found cs =>
      .bind_pure (.tracked reads_endOfInput) ?_)
    rintro _ ds rest ⟨rfl, rfl⟩ hfound
    exact hfound.wellFormed
  exact hread (ahead.length + 1) ahead

end Reads

/-! ## Paths -/

namespace Path

variable {p q : Path}

/-- **Paths that can be spelled are told apart by their keys.** -/
theorem Regular.eq_of_key_eq (hp : p.Regular) (hq : q.Regular) (h : p.key = q.key) : p = q :=
  hp.dot_not_mem.eq_of_key_eq hq.dot_not_mem h

end Path

theorem Term.path?_eq_some_iff {term : Term} {p : Path} :
    term.path? = some p ↔ term = .variable p := by
  cases term <;> simp [Term.path?]

/-- The paths of a parsed template can be spelled. -/
theorem Template.regular_of_parse {source : String} {t : Template}
    (h : Template.parse source = .ok t) : ∀ p ∈ t.paths, p.Regular := by
  intro p hp
  obtain ⟨x, hx, hpath⟩ := List.mem_filterMap.mp hp
  -- The variable is an operand of some node, and laid out with it.
  obtain ⟨n, hn, hx⟩ := Template.mem_operands.mp hx
  obtain ⟨before, cs, hspelled⟩ := Template.spelled_of_mem_nodes h hn
  obtain ⟨before', cs', hoperand⟩ := hspelled.of_mem_ownOperands x hx
  have hterm := hoperand.term
  rw [Term.path?_eq_some_iff.mp hpath] at hterm
  match hterm with
  | .variable hregular => exact hregular

/-- **Every parsed template is well-formed**: texts are not empty, nothing opens in them, no two of
them stand side by side, and only at the very end of the source may one end with a brace; names and
paths have their form, and no path is a reserved word; literals are strings, numbers, truth values
or nothing. So there is no dot in a segment of a path, and paths are told from one another by their
keys. All nodes, calls and operands have positions. -/
theorem wellFormed_of_parse {source : String} {t : Template} (h : Template.parse source = .ok t) :
    t.WellFormed ∧ (∀ p ∈ t.paths, ∀ s ∈ p.segments, '.' ∉ s.toList) ∧ t.KeysDistinct ∧
      ∀ pos ∈ t.positions, Position.Known pos := by
  obtain ⟨j, hread⟩ := Template.parse_eq_ok_iff.mp h
  have hinput : Input.ofSource source = ⟨Cursor.start.past [], source.toList⟩ := rfl
  rw [hinput] at hread
  obtain ⟨cs, -, -, hwell⟩ := reads_wellFormed_template source.toList t j rfl hread
  have hregular := Template.regular_of_parse h
  refine ⟨hwell, fun p hp => (hregular p hp).dot_not_mem, ?_, Template.known_of_parse h⟩
  exact fun p hp q hq => (hregular p hp).eq_of_key_eq (hregular q hq)

/-- A loop with a choice in it, over a path whose head is a reserved word, and a brace at the end:
the word is a variable there because the path goes on, and the brace is part of the last text. -/
theorem wellFormed_of_parse_nested :
    let source := "\x7b% for x in true.y %\x7da\x7b% if z.0|f:'b' %\x7d\x7b##\x7dc" ++
      "\x7b% endif %\x7d\x7b% endfor %\x7d \x7b"
    ∃ t, Template.parse source = .ok t ∧ t.paths = [⟨"true", ["y"]⟩, ⟨"z", ["0"]⟩] ∧
      t.map Node.text? = [none, some " \x7b"] ∧ t.WellFormed ∧
      (∀ p ∈ t.paths, ∀ s ∈ p.segments, '.' ∉ s.toList) ∧ t.KeysDistinct ∧
      ∀ pos ∈ t.positions, Position.Known pos := by
  intro source
  have hread : (Template.parse source).toOption.map (fun t => (t.paths, t.map Node.text?)) =
      some ([⟨"true", ["y"]⟩, ⟨"z", ["0"]⟩], [none, some " \x7b"]) := by
    decide +kernel
  -- Only what was computed above is used of the source, so that it is not parsed again.
  generalize source = source at hread ⊢
  cases hparse : Template.parse source with
  | error e =>
    rw [hparse] at hread
    cases hread
  | ok t =>
    rw [hparse] at hread
    obtain ⟨hpaths, htexts⟩ := Prod.mk.inj (Option.some.inj hread)
    exact ⟨t, rfl, hpaths, htexts, wellFormed_of_parse hparse⟩

end Stencil
