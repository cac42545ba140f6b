import Stencil.Template.Parse
import Stencil.Proofs.Template.Expression

/-!
# Reading what was printed

A well-formed template is read back from its text. Nodes are read as long as there are any, so they
have to be followed by something that is no node: by the end of the source, or by a tag that closes
the block or starts its next part, whose word starts with `e` in all cases.

## Main definitions

* `Follows`: what stands behind the nodes of a block, or of a template
* `LacksTag`: no tag with a given word opens here

## Main results

* `takes_node`, `takes_nodes`: nodes are read back
* `parse_print`: templates are read back
-/

namespace Stencil

open Grammar Scan Reader

/-! ## Tags -/

section Tags

variable {α : Type} {cs rest : List Char} {spell : Operand → List Char} {word : String}

/-- A tag with the word does not open here; neither does one with spaces before its word. -/
def LacksTag (word : String) (cs : List Char) : Prop :=
  ∀ inner, cs = "\x7b%".toList ++ inner → Stops isSpace inner ∧ ¬ word.toList <+: inner

theorem lacksTag_of_not_isPrefix (h : ¬ "\x7b%".toList <+: cs) : LacksTag word cs := by
  rintro inner rfl
  exact absurd (List.prefix_append _ _) h

/-- A tag that opens with another word lacks the word. -/
theorem lacksTag_of_isIdentifier {other tail : List Char} (hother : IsIdentifier other)
    (hword : ¬ word.toList <+: other ++ tail) :
    LacksTag word ("\x7b%".toList ++ (other ++ tail)) := by
  intro inner hinner
  obtain rfl := List.append_cancel_left hinner
  exact ⟨stops_of_isIdentifier hother fun c => isSpace_of_isNameStart, hword⟩

theorem lacksTag_printTag {other : String} (hother : IsIdentifier other.toList)
    (hword : ∀ tail, ¬ word.toList <+: other.toList ++ tail) :
    LacksTag word (printTag other ++ rest) := by
  rw [printTag, List.append_assoc, List.append_assoc]
  exact lacksTag_of_isIdentifier hother (hword _)

theorem lacksTag_printPhrase {other : String} {inner : List Char}
    (hother : IsIdentifier other.toList) (hword : ∀ tail, ¬ word.toList <+: other.toList ++ tail) :
    LacksTag word (printPhrase other inner ++ rest) := by
  rw [printPhrase, List.append_assoc, List.append_assoc]
  exact lacksTag_of_isIdentifier hother (hword _)

theorem takes_tagOpen (hr : Stops isSpace rest) :
    Takes tagOpen "\x7b%".toList rest fun _ => True :=
  .bind_last (.symbol _) fun _ _ => .blanks (by simp) hr

theorem takes_tagClose : Takes tagClose "%\x7d".toList rest fun _ => True :=
  .bind_nothing (.blanks (by simp) ((stops_cons _ _ _).mpr (by decide))) fun _ _ => .symbol _

theorem fails_tag {f : Unit → Reader α} (h : LacksTag word cs) :
    Fails (tagOpen >>= fun _ => symbol word >>= f) cs := by
  by_cases hmark : "\x7b%".toList <+: cs
  · obtain ⟨inner, rfl⟩ := hmark
    obtain ⟨hspace, hword⟩ := h inner rfl
    exact .bind_of_takes (takes_tagOpen hspace) fun _ _ => .bind (.symbol hword)
  · exact .bind (.bind (.symbol hmark))

theorem takes_wordTag (hword : IsIdentifier word.toList) :
    Takes (wordTag word) (printTag word) rest fun _ => True := by
  refine .bind (takes_tagOpen ?_) fun _ _ => .bind (.symbol word) fun _ _ => takes_tagClose
  rw [List.append_assoc]
  exact stops_of_isIdentifier hword fun c => isSpace_of_isNameStart

theorem takes_space (hr : Stops isSpace rest) : Takes blanks1 [' '] rest fun _ => True :=
  .blanks1 (by simp) (by simp [isSpace]) hr

theorem takes_conditionTag {test : Condition} (hword : IsIdentifier word.toList)
    (htest : test.test.WellFormed) (hspell : ∀ o ∈ test.test.operands, o.SpelledBy spell) :
    Takes (conditionTag word) (printPhrase word (test.print spell)) rest
      (·.erasePos = test.erasePos) := by
  have hclose : ExprEnds ("%\x7d".toList ++ rest) := begins_cons (by decide)
  refine .bind (takes_tagOpen ?_) fun _ _ => .bind (.symbol word) fun _ _ => ?_
  · rw [List.append_assoc]
    exact stops_of_isIdentifier hword fun c => isSpace_of_isNameStart
  refine .bind (takes_space ?_) fun _ _ => ?_
  · rw [List.append_assoc]
    exact stops_print_condition htest hspell hclose
  refine .bind (takes_condition htest hspell hclose) fun found hfound => ?_
  exact .bind_pure takes_tagClose fun _ _ => hfound

/-- The tag of a loop is read back, and reading goes on behind it. -/
theorem takes_loopTag {binding : String} {iterable : FilterExpr} {β : Type} {Q : β → Prop}
    {f : String → FilterExpr → Reader β} (hbinding : IsIdentifier binding.toList)
    (hiterable : iterable.WellFormed) (hspell : ∀ o ∈ iterable.operands, o.SpelledBy spell)
    (hf : ∀ e, e.erasePos = iterable.erasePos → Takes (f binding e) cs rest Q) :
    Takes
      (do
        tagOpen
        symbol "for"
        blanks1
        let binding ← identifier
        blanks1
        symbol "in"
        blanks1
        let iterable ← filterExpression
        tagClose
        f binding iterable)
      (printPhrase "for"
        (binding.toList ++ ([' '] ++ ("in".toList ++ ([' '] ++ iterable.print spell)))) ++ cs)
      rest Q := by
  have hclose : ExprEnds ("%\x7d".toList ++ cs ++ rest) := begins_cons (by decide)
  have hstop := stops_dropWhile_print_filterExpr hiterable hspell hclose
  -- The text in the order of the parts that read it.
  simp only [printPhrase, List.append_assoc] at hclose hstop ⊢
  refine .bind (takes_tagOpen ((stops_cons _ _ _).mpr (by decide))) fun _ _ => ?_
  refine .bind (.symbol "for") fun _ _ => .bind (takes_space ?_) fun _ _ => ?_
  · rw [List.append_assoc]
    exact stops_of_isIdentifier hbinding fun c => isSpace_of_isNameStart
  refine .bind (takes_identifier hbinding ((stops_cons _ _ _).mpr (by decide))) ?_
  rintro _ rfl
  refine .bind (takes_space ((stops_cons _ _ _).mpr (by decide))) fun _ _ => ?_
  refine .bind (.symbol "in") fun _ _ => .bind (takes_space ?_) fun _ _ => ?_
  · rw [List.append_assoc, List.append_assoc]
    exact stops_of_stops_dropWhile hstop
  refine .bind (takes_filterExpression hiterable hspell ?_) fun e he => ?_
  · rw [List.append_assoc]
    exact hclose
  exact .bind takes_tagClose fun _ _ => hf e he

end Tags

/-! ## What follows nodes -/

/-- Behind nested nodes stands a tag whose word starts with `e`, and behind the nodes of a template
stands nothing. -/
def Follows (nested : Bool) (cs : List Char) : Prop :=
  if nested then ['{', '%', 'e'] <+: cs else cs = []

section Follows

variable {cs rest : List Char} (spell : Operand → List Char)

theorem follows_printTag {word : String} {tail : List Char} (hword : word.toList = 'e' :: tail) :
    Follows true (printTag word ++ rest) := by
  rw [printTag, hword]
  exact ⟨tail ++ "%\x7d".toList ++ rest, by simp⟩

theorem follows_printPhrase {word : String} {tail inner : List Char}
    (hword : word.toList = 'e' :: tail) : Follows true (printPhrase word inner ++ rest) := by
  rw [printPhrase, hword]
  exact ⟨tail ++ ([' '] ++ (inner ++ "%\x7d".toList)) ++ rest, by simp⟩

theorem follows_print_branches (b : Branches) (hr : Follows true rest) :
    Follows true (Branches.print spell "elif" b ++ rest) := by
  cases b with
  | none => exact hr
  | otherwise body =>
    rw [Branches.print, List.append_assoc]
    exact follows_printTag rfl
  | when test body b =>
    rw [Branches.print, List.append_assoc]
    exact follows_printPhrase rfl

theorem follows_printEmpty (empty : Option (List Node)) (hr : Follows true rest) :
    Follows true (Node.printEmpty spell empty ++ rest) := by
  cases empty with
  | none => exact hr
  | some body =>
    rw [Node.printEmpty, List.append_assoc]
    exact follows_printTag rfl

/-- No tag that opens a node follows. -/
theorem Follows.lacksTag {nested : Bool} {word : String} (h : Follows nested cs)
    (hword : ∀ tail, ¬ word.toList <+: 'e' :: tail) : LacksTag word cs := by
  cases nested with
  | false =>
    obtain rfl : cs = [] := h
    exact lacksTag_of_not_isPrefix (by simp)
  | true =>
    obtain ⟨tail, rfl⟩ : ['{', '%', 'e'] <+: cs := h
    have hname : IsIdentifier ['e'] := by decide
    exact lacksTag_of_isIdentifier hname (hword tail)

end Follows

/-! ## Nodes -/

section Fails

variable {body : Reader (List Node)} {n : Nat} {cs : List Char}

theorem fails_commentNode (h : ¬ "\x7b#".toList <+: cs) : Fails commentNode cs :=
  fun k => Fails.bind (Fails.tracked (.lexeme (append_eq_none (literal_eq_none h)))) k

theorem fails_outputNode (h : ¬ "\x7b\x7b".toList <+: cs) : Fails outputNode cs :=
  .tracked fun k => Fails.bind (.symbol h) k

theorem fails_conditionalNode (h : LacksTag "if" cs) : Fails (conditionalNode body n) cs :=
  .tracked fun k => Fails.bind (fails_tag h) k

theorem fails_loopNode (h : LacksTag "for" cs) : Fails (loopNode body) cs :=
  .tracked fun k => fails_tag h k

theorem fails_filteredNode (h : LacksTag "filter" cs) : Fails (filteredNode body) cs :=
  .tracked fun k => fails_tag h k

/-- No node is read behind the nodes of a block or a template. -/
theorem fails_node {nested : Bool} (h : Follows nested cs) : Fails (node body n) cs := by
  have hmarks : ¬ "\x7b#".toList <+: cs ∧ ¬ "\x7b\x7b".toList <+: cs ∧ text cs = none := by
    cases nested with
    | false =>
      obtain rfl : cs = [] := h
      exact ⟨by simp, by simp, rfl⟩
    | true =>
      obtain ⟨tail, rfl⟩ : ['{', '%', 'e'] <+: cs := h
      exact ⟨by simp, by simp, text_eq_none rfl⟩
  -- No word that opens a block starts with `e`.
  refine .orElse (fails_commentNode hmarks.1) (.orElse (fails_outputNode hmarks.2.1)
    (.orElse (fails_conditionalNode (h.lacksTag (by simp)))
    (.orElse (fails_loopNode (h.lacksTag (by simp)))
    (.orElse (fails_filteredNode (h.lacksTag (by simp))) fun k => ?_))))
  exact Fails.bind (.tracked (.lexeme hmarks.2.2)) k

end Fails

section Leaves

variable {rest : List Char} {spell : Operand → List Char}

theorem takes_textNode {content : String} (hne : content ≠ "")
    (hcontent : ¬ HasOpening content.toList) (hborder : Borders content.toList rest) :
    Takes textNode content.toList rest (·.erasePos = .text content none) := by
  have hchars : content.toList ≠ [] := fun h => hne (String.toList_eq_nil_iff.mp h)
  refine .bind_position fun pos => .bind_pure
    (.tracked (.lexeme (text_append hchars hcontent hborder))) ?_
  rintro lexeme rfl
  rw [String.ofList_toList, Node.erasePos]

theorem takes_commentNode :
    Takes commentNode "\x7b##\x7d".toList rest (·.erasePos = .comment none) :=
  .bind_position fun _ => .bind_pure (.tracked (.lexeme rfl)) fun _ _ => rfl

theorem takes_outputNode {expr : FilterExpr} (hexpr : expr.WellFormed)
    (hspell : ∀ o ∈ expr.operands, o.SpelledBy spell) :
    Takes outputNode ("\x7b\x7b".toList ++ (expr.print spell ++ "\x7d\x7d".toList)) rest
      (·.erasePos = .output expr.erasePos none) := by
  have hclose : ExprEnds ("\x7d\x7d".toList ++ rest) := begins_cons (by decide)
  refine .tracked (.bind_position fun pos => .bind (.symbol _) fun _ _ => ?_)
  refine .bind_nothing (.blanks (by simp) ?_) fun _ _ => ?_
  · rw [List.append_assoc]
    exact stops_of_stops_dropWhile (stops_dropWhile_print_filterExpr hexpr hspell hclose)
  refine .bind (takes_filterExpression hexpr hspell hclose) fun expr' hexpr' => ?_
  refine .bind_nothing (.blanks (by simp) hclose.operandEnds.stops_space) fun _ _ => ?_
  refine .bind_pure (.symbol _) fun _ _ => ?_
  rw [Node.erasePos, hexpr']

/-- Every node except for a text opens a tag or a comment. -/
theorem opens_print {x : Node} (hx : x.WellFormed) (htext : x.text? = none) :
    opens (x.print spell ++ rest) := by
  cases x with
  | text content pos => cases htext
  | comment pos => rfl
  | output expr pos => rfl
  | conditional b pos =>
    obtain _ | _ | ⟨test, ns, b⟩ := b
    · exact hx.1.elim
    · exact hx.1.elim
    · rfl
  | loop binding iterable ns empty pos => rfl
  | filtered call ns pos => rfl

theorem print_ne_nil {x : Node} (hx : x.WellFormed) : x.print spell ≠ [] := by
  cases htext : x.text? with
  | none =>
    intro hnil
    have hopens : opens (x.print spell ++ []) := opens_print hx htext
    rw [hnil] at hopens
    cases hopens
  | some content =>
    cases x with
    | text content' pos => exact fun hnil => hx.1 (String.toList_eq_nil_iff.mp hnil)
    | _ => cases htext

theorem borders_printAll {nested : Bool} {x : Node} {ns : List Node}
    (hns : Node.WellFormedAll nested ns) (hjoins : x.Joins nested ns) (hr : Follows nested rest)
    {content : String} (hcontent : content ∈ x.text?) :
    Borders content.toList (Node.printAll spell ns ++ rest) := by
  obtain ⟨hnext, hbrace⟩ := hjoins content hcontent
  cases ns with
  | nil =>
    cases nested with
    | false => exact .inl hr
    | true =>
      obtain ⟨tail, rfl⟩ : ['{', '%', 'e'] <+: rest := hr
      exact .inr ⟨rfl, fun hlast => by cases (hbrace hlast).2⟩
  | cons y ns =>
    refine .inr ⟨?_, fun hlast => by cases (hbrace hlast).1⟩
    rw [Node.printAll, List.append_assoc]
    exact opens_print hns.1 (hnext y rfl)

end Leaves

theorem fails_leaves {cs : List Char} (h : "\x7b%".toList <+: cs) :
    Fails commentNode cs ∧ Fails outputNode cs := by
  obtain ⟨tail, rfl⟩ := h
  exact ⟨fails_commentNode (by simp), fails_outputNode (by simp)⟩

/-- Nothing opens where a text stands. -/
theorem not_isPrefix_of_text {content : String} {rest : List Char} (hne : content ≠ "")
    (hcontent : ¬ HasOpening content.toList) (hborder : Borders content.toList rest) :
    ∀ mark ∈ [['{', '{'], ['{', '%'], ['{', '#']], ¬ mark <+: content.toList ++ rest := by
  intro mark hmark hprefix
  have hchars : content.toList ≠ [] := fun h => hne (String.toList_eq_nil_iff.mp h)
  have hopens : opens (content.toList ++ rest) := (opens_iff _).mpr ⟨mark, hmark, hprefix⟩
  -- Where something opens no text is found, but the text is found here.
  have hscan := text_append hchars hcontent hborder
  rw [text_eq_none hopens] at hscan
  cases hscan

section Bodies

/-! A body is read with some reader, which reads back all nested nodes with fewer than `n`
characters. -/

variable {spell : Operand → List Char} {body : Reader (List Node)} {n : Nat} {rest : List Char}
  (hbody : ∀ ns rest, Node.WellFormedAll true ns → (∀ o ∈ Node.operandsAll ns, o.SpelledBy spell) →
    (Node.printAll spell ns).length < n → Follows true rest →
    Takes body (Node.printAll spell ns) rest (Node.erasePosAll · = Node.erasePosAll ns))

include hbody

theorem takes_elifBranch {test : Condition} {ns : List Node} (htest : test.test.WellFormed)
    (htests : ∀ o ∈ test.test.operands, o.SpelledBy spell) (hns : Node.WellFormedAll true ns)
    (hspell : ∀ o ∈ Node.operandsAll ns, o.SpelledBy spell)
    (hn : (Node.printAll spell ns).length < n) (hr : Follows true rest) :
    Takes (elifBranch body) (printPhrase "elif" (test.print spell) ++ Node.printAll spell ns) rest
      fun found => found.1.erasePos = test.erasePos ∧
        Node.erasePosAll found.2 = Node.erasePosAll ns := by
  refine .tracked (.bind (takes_conditionTag (by decide) htest htests) fun test' htest' => ?_)
  exact .bind_pure (hbody ns rest hns hspell hn hr) fun ns' hns' => ⟨htest', hns'⟩

theorem takes_elseBranch {ns : List Node} (hns : Node.WellFormedAll true ns)
    (hspell : ∀ o ∈ Node.operandsAll ns, o.SpelledBy spell)
    (hn : (Node.printAll spell ns).length < n) (hr : Follows true rest) :
    Takes (elseBranch body) (printTag "else" ++ Node.printAll spell ns) rest
      (Node.erasePosAll · = Node.erasePosAll ns) :=
  .tracked (.bind (takes_wordTag (by decide)) fun _ _ => hbody ns rest hns hspell hn hr)

theorem takes_emptyBranch {ns : List Node} (hns : Node.WellFormedAll true ns)
    (hspell : ∀ o ∈ Node.operandsAll ns, o.SpelledBy spell)
    (hn : (Node.printAll spell ns).length < n) (hr : Follows true rest) :
    Takes (emptyBranch body) (printTag "empty" ++ Node.printAll spell ns) rest
      (Node.erasePosAll · = Node.erasePosAll ns) :=
  .tracked (.bind (takes_wordTag (by decide)) fun _ _ => hbody ns rest hns hspell hn hr)

/-- The further branches of a conditional are read back, up to its end. -/
theorem takes_branches {m : Nat} {b : Branches} (hb : b.WellFormed)
    (hspell : ∀ o ∈ b.operands, o.SpelledBy spell)
    (hm : (Branches.print spell "elif" b).length ≤ m)
    (hn : (Branches.print spell "elif" b).length ≤ n) :
    Takes (branches body m) (Branches.print spell "elif" b) (printTag "endif" ++ rest)
      (·.erasePos = b.erasePos) := by
  have hend : Follows true (printTag "endif" ++ rest) := follows_printTag rfl
  induction m generalizing b with
  | zero =>
    cases b with
    | none => exact .pure rfl
    | otherwise ns => simp [Branches.print, printTag] at hm
    | when test ns b => simp [Branches.print, printPhrase] at hm
  | succ m ih =>
    cases b with
    | none =>
      have helif : LacksTag "elif" (printTag "endif" ++ rest) :=
        lacksTag_printTag (by decide) (by simp)
      have helse : LacksTag "else" (printTag "endif" ++ rest) :=
        lacksTag_printTag (by decide) (by simp)
      exact .orElse_right (.bind (.tracked (.bind (fails_tag helif))))
        (.orElse_right (.bind (.tracked (.bind (fails_tag helse)))) (.pure rfl))
    | otherwise ns =>
      -- `elif` is tried first, and `else` starts with the same letters.
      rw [Branches.print, printTag, List.length_append] at hn
      have helif : LacksTag "elif"
          (printTag "else" ++ Node.printAll spell ns ++ (printTag "endif" ++ rest)) := by
        rw [List.append_assoc]
        exact lacksTag_printTag (by decide) (by simp)
      have hlength : (Node.printAll spell ns).length < n := by
        simp at hn
        omega
      refine .orElse_right (.bind (.tracked (.bind (fails_tag helif)))) (.orElse_left ?_)
      refine .bind_pure (takes_elseBranch hbody hb hspell hlength hend) fun ns' hns' => ?_
      rw [Branches.erasePos, Branches.erasePos, hns']
    | when test ns b =>
      obtain ⟨htest, hns, hb⟩ := hb
      rw [Branches.operands] at hspell
      rw [Branches.print, List.length_append, List.length_append] at hm hn
      have hphrase : 0 < (printPhrase "elif" (test.print spell)).length := by simp [printPhrase]
      have hbranch := takes_elifBranch hbody htest (fun o ho => hspell o (by simp [ho])) hns
        (fun o ho => hspell o (by simp [ho])) (by omega) (follows_print_branches spell b hend)
      have htail := ih hb (fun o ho => hspell o (by simp [ho])) (by omega) (by omega)
      rw [Branches.print, ← List.append_assoc]
      refine .orElse_left (.bind hbranch ?_)
      rintro ⟨test', ns'⟩ ⟨htest', hns'⟩
      refine .bind_pure htail fun b' hb' => ?_
      rw [Branches.erasePos, Branches.erasePos, htest', hns', hb']

theorem takes_conditionalNode {b : Branches} {pos : Option Position} (htested : b.Tested)
    (hb : b.WellFormed) (hspell : ∀ o ∈ b.operands, o.SpelledBy spell)
    (hn : (Node.print spell (.conditional b pos)).length ≤ n) :
    Takes (conditionalNode body n) (Node.print spell (.conditional b pos)) rest
      (·.erasePos = Node.erasePos (.conditional b pos)) := by
  -- The first branch has a test, or else there would be no tag to open with.
  obtain _ | _ | ⟨test, ns, b⟩ := b
  · exact htested.elim
  · exact htested.elim
  obtain ⟨htest, hns, hb⟩ := hb
  rw [Branches.operands] at hspell
  have hphrase : 0 < (printPhrase "if" (test.print spell)).length := by simp [printPhrase]
  simp only [Node.print, Branches.print, List.append_assoc, List.length_append] at hn ⊢
  have hend : Follows true (printTag "endif" ++ rest) := follows_printTag rfl
  have hnext := follows_print_branches spell b hend
  rw [← List.append_assoc] at hnext
  refine .tracked (.bind_position fun pos' => ?_)
  refine .bind (takes_conditionTag (by decide) htest fun o ho => hspell o (by simp [ho])) ?_
  intro test' htest'
  refine .bind (hbody ns _ hns (fun o ho => hspell o (by simp [ho])) (by omega) hnext) ?_
  intro ns' hns'
  refine .bind (takes_branches hbody hb (fun o ho => hspell o (by simp [ho])) (by omega)
    (by omega)) fun b' hb' => ?_
  refine .bind_pure (takes_wordTag (by decide)) fun _ _ => ?_
  simp [Node.erasePos, Branches.erasePos, htest', hns', hb']

theorem takes_loopNode {binding : String} {iterable : FilterExpr} {ns : List Node}
    {empty : Option (List Node)} {pos : Option Position}
    (hnode : Node.WellFormed (.loop binding iterable ns empty pos))
    (hspell : ∀ o ∈ Node.operands (.loop binding iterable ns empty pos), o.SpelledBy spell)
    (hn : (Node.print spell (.loop binding iterable ns empty pos)).length ≤ n) :
    Takes (loopNode body) (Node.print spell (.loop binding iterable ns empty pos)) rest
      (·.erasePos = Node.erasePos (.loop binding iterable ns empty pos)) := by
  obtain ⟨hbinding, hiterable, hns, hempty⟩ := hnode
  rw [Node.operands] at hspell
  rw [Node.print, List.length_append, List.length_append, List.length_append] at hn
  have hphrase : 0 < (printPhrase "for"
      (binding.toList ++ ([' '] ++ ("in".toList ++ ([' '] ++ iterable.print spell))))).length := by
    simp [printPhrase]
  have hend : Follows true (printTag "endfor" ++ rest) := follows_printTag rfl
  rw [Node.print]
  refine .tracked (.bind_position fun pos' => takes_loopTag hbinding hiterable
    (fun o ho => hspell o (by simp [ho])) fun iterable' hiterable' => ?_)
  refine .bind (hbody ns _ hns (fun o ho => hspell o (by simp [ho])) (by omega) ?_) ?_
  · rw [List.append_assoc]
    exact follows_printEmpty spell empty hend
  intro ns' hns'
  cases empty with
  | none =>
    have hlacks : LacksTag "empty" (printTag "endfor" ++ rest) :=
      lacksTag_printTag (by decide) (by simp)
    refine .bind_nothing (.opt_none (.tracked (.bind (fails_tag hlacks)))) fun empty' hempty' => ?_
    refine .bind_pure (takes_wordTag (by decide)) fun _ _ => ?_
    simp [Node.erasePos, Node.erasePosOpt, hiterable', hns', hempty']
  | some es =>
    have hlength : (Node.printAll spell es).length < n := by
      simp only [Node.printEmpty, List.length_append] at hn
      omega
    have hes : ∀ o ∈ Node.operandsAll es, o.SpelledBy spell := fun o ho =>
      hspell o (by simp [Node.operandsOpt, ho])
    refine .bind (.opt_some (takes_emptyBranch hbody hempty hes hlength hend)) ?_
    rintro _ ⟨es', rfl, hes'⟩
    refine .bind_pure (takes_wordTag (by decide)) fun _ _ => ?_
    simp [Node.erasePos, Node.erasePosOpt, hiterable', hns', hes']

theorem takes_filteredNode {call : FilterCall} {ns : List Node} {pos : Option Position}
    (hnode : Node.WellFormed (.filtered call ns pos))
    (hspell : ∀ o ∈ Node.operands (.filtered call ns pos), o.SpelledBy spell)
    (hn : (Node.print spell (.filtered call ns pos)).length ≤ n) :
    Takes (filteredNode body) (Node.print spell (.filtered call ns pos)) rest
      (·.erasePos = Node.erasePos (.filtered call ns pos)) := by
  obtain ⟨hcall, hns⟩ := hnode
  rw [Node.operands] at hspell
  simp only [Node.print, printPhrase, List.append_assoc, List.length_append] at hn ⊢
  have hmark : 0 < "\x7b%".toList.length := by decide
  have hend : Follows true (printTag "endfilter" ++ rest) := follows_printTag rfl
  refine .tracked (.bind_position fun pos' => ?_)
  refine .bind (takes_tagOpen ((stops_cons _ _ _).mpr (by decide))) fun _ _ => ?_
  refine .bind (.symbol "filter") fun _ _ => ?_
  refine .bind (takes_space ?_) fun _ _ => ?_
  · rw [List.append_assoc]
    exact stops_print_filterCall hcall
  refine .bind (takes_filterCall hcall (fun o ho => hspell o (by simp_all)) ?_) ?_
  · rw [List.append_assoc]
    exact begins_cons (by decide)
  intro call' hcall'
  refine .bind takes_tagClose fun _ _ => ?_
  refine .bind (hbody ns _ hns (fun o ho => hspell o (by simp [ho])) (by omega) hend) ?_
  intro ns' hns'
  refine .bind_pure (takes_wordTag (by decide)) fun _ _ => ?_
  simp [Node.erasePos, hcall', hns']

/-- **A node is read back**, whatever follows it; only a text needs something that ends it. -/
theorem takes_node {x : Node} (hx : x.WellFormed) (hspell : ∀ o ∈ x.operands, o.SpelledBy spell)
    (hn : (x.print spell).length ≤ n)
    (hborder : ∀ content ∈ x.text?, Borders content.toList rest) :
    Takes (node body n) (x.print spell) rest (·.erasePos = x.erasePos) := by
  cases x with
  | text content pos =>
    -- Text comes last among the choices, so that all others have to fail on it.
    obtain ⟨hne, hcontent⟩ := hx
    have hmarks := not_isPrefix_of_text hne hcontent (hborder content rfl)
    have htag {word : String} : LacksTag word (content.toList ++ rest) :=
      lacksTag_of_not_isPrefix (hmarks _ (by simp))
    exact .orElse_right (fails_commentNode (hmarks _ (by simp)))
      (.orElse_right (fails_outputNode (hmarks _ (by simp)))
      (.orElse_right (fails_conditionalNode htag) (.orElse_right (fails_loopNode htag)
      (.orElse_right (fails_filteredNode htag)
      (takes_textNode hne hcontent (hborder content rfl))))))
  | comment pos => exact .orElse_left takes_commentNode
  | output expr pos =>
    refine .orElse_right (fails_commentNode ?_) (.orElse_left (takes_outputNode hx hspell))
    simp [Node.print]
  | conditional b pos =>
    have hmark : "\x7b%".toList <+: Node.print spell (.conditional b pos) ++ rest := by
      obtain _ | _ | ⟨test, ns, b⟩ := b
      · exact hx.1.elim
      · exact hx.1.elim
      · exact ⟨_, rfl⟩
    obtain ⟨hcomment, houtput⟩ := fails_leaves hmark
    exact .orElse_right hcomment (.orElse_right houtput
      (.orElse_left (takes_conditionalNode hbody hx.1 hx.2 hspell hn)))
  | loop binding iterable ns empty pos =>
    have hmark :
        "\x7b%".toList <+: Node.print spell (.loop binding iterable ns empty pos) ++ rest :=
      ⟨_, rfl⟩
    obtain ⟨hcomment, houtput⟩ := fails_leaves hmark
    refine .orElse_right hcomment (.orElse_right houtput (.orElse_right (fails_conditionalNode ?_)
      (.orElse_left (takes_loopNode hbody hx hspell hn))))
    rw [Node.print, List.append_assoc]
    exact lacksTag_printPhrase (by decide) (by simp)
  | filtered call ns pos =>
    have hmark : "\x7b%".toList <+: Node.print spell (.filtered call ns pos) ++ rest := ⟨_, rfl⟩
    obtain ⟨hcomment, houtput⟩ := fails_leaves hmark
    have hlacks {word : String} (hword : ∀ tail, ¬ word.toList <+: "filter".toList ++ tail) :
        LacksTag word (Node.print spell (.filtered call ns pos) ++ rest) := by
      rw [Node.print, List.append_assoc]
      exact lacksTag_printPhrase (by decide) hword
    exact .orElse_right hcomment (.orElse_right houtput
      (.orElse_right (fails_conditionalNode (hlacks (by simp)))
      (.orElse_right (fails_loopNode (hlacks (by simp)))
      (.orElse_left (takes_filteredNode hbody hx hspell hn)))))

end Bodies

/-- Nodes are read back one behind the other, if there is fuel for more than their characters. -/
theorem takes_nodes {spell : Operand → List Char} {n : Nat} {nested : Bool} {ns : List Node}
    {rest : List Char} (hns : Node.WellFormedAll nested ns)
    (hspell : ∀ o ∈ Node.operandsAll ns, o.SpelledBy spell)
    (hn : (Node.printAll spell ns).length < n) (hr : Follows nested rest) :
    Takes (nodes n) (Node.printAll spell ns) rest (Node.erasePosAll · = Node.erasePosAll ns) := by
  -- Each level of nesting and each node takes one unit of fuel, and at least one character.
  induction n generalizing nested ns rest with
  | zero => omega
  | succ n ih =>
    cases ns with
    | nil => exact .orElse_right (.bind (fails_node hr)) (.pure rfl)
    | cons x ns =>
      obtain ⟨hx, hjoins, hns⟩ := hns
      rw [Node.operandsAll] at hspell
      rw [Node.printAll, List.length_append] at hn
      have hpos : 0 < (x.print spell).length := List.length_pos_iff.mpr (print_ne_nil hx)
      have hbody : ∀ ns rest, Node.WellFormedAll true ns →
          (∀ o ∈ Node.operandsAll ns, o.SpelledBy spell) → (Node.printAll spell ns).length < n →
          Follows true rest → Takes (nodes n) (Node.printAll spell ns) rest
            (Node.erasePosAll · = Node.erasePosAll ns) := fun ns rest h₁ h₂ h₃ h₄ => ih h₁ h₂ h₃ h₄
      refine .orElse_left (.bind (takes_node hbody hx (fun o ho => hspell o (by simp [ho]))
        (by omega) fun content => borders_printAll hns hjoins hr) fun x' hx' => ?_)
      refine .bind_pure (ih hns (fun o ho => hspell o (by simp [ho])) (by omega) hr) ?_
      intro ns' hns'
      rw [Node.erasePosAll, Node.erasePosAll, hx', hns']

theorem takes_endOfInput : Takes endOfInput [] [] fun _ => True :=
  fun _ => ⟨(), rfl, trivial⟩

theorem takes_template {spell : Operand → List Char} {t : Template} (ht : t.WellFormed)
    (hspell : ∀ o ∈ t.operands, o.SpelledBy spell) :
    Takes template (Node.printAll spell t) [] (Template.erasePos · = t.erasePos) := by
  intro k
  have hread (n : Nat) (hn : (Node.printAll spell t).length < n) : Takes
      (tracked .template do
        let found ← nodes n
        tracked .endOfInput endOfInput
        return found)
      (Node.printAll spell t) [] (Template.erasePos · = t.erasePos) := by
    refine .tracked (.bind_last (takes_nodes ht hspell hn rfl) fun found hfound => ?_)
    exact .bind_pure (.tracked takes_endOfInput) fun _ _ => hfound
  exact hread _ (by simp) k

/-- **A well-formed template is read back from its text**, up to positions, provided that the
spelling of every number denotes this number. -/
theorem parse_print {spell : Operand → List Char} {t : Template} (ht : t.WellFormed)
    (hspell : ∀ o ∈ t.operands, o.SpelledBy spell) :
    (Template.parse (t.print spell)).map Template.erasePos = .ok t.erasePos := by
  obtain ⟨found, hread, hfound⟩ := takes_template ht hspell Cursor.start
  have hinput : Input.ofSource (t.print spell) =
      ⟨Cursor.start, Node.printAll spell t ++ []⟩ := by
    rw [Input.ofSource, Template.print, String.toList_ofList, List.append_nil]
  have hparse : Template.parse (t.print spell) = .ok found :=
    Template.parse_eq_ok_iff.mpr ⟨_, by rw [hinput]; exact hread⟩
  rw [hparse, Except.map, hfound]

/-- A conditional with a negated test, whose path starts like a negation and whose argument holds
marks and quotes, around a loop over a number, and a brace at the very end. -/
theorem parse_print_nested :
    let spell : Operand → List Char := fun _ => ['1', '.', '5']
    let number : Operand := ⟨.literal (.number (numberOfDecimal ['1', '.', '5'])), none⟩
    let test : FilterExpr := ⟨⟨.variable ⟨"notice", ["0", "true"]⟩, none⟩,
      [⟨"f", some ⟨.literal (.string "\"\x7d\x7d\\"), none⟩, none⟩]⟩
    let body : List Node := [.loop "x" ⟨number, []⟩ [.comment none] (some []) none]
    let t : Template := [.text "a" none,
      .conditional (.when ⟨true, test⟩ body (.otherwise [])) none, .text "\x7b" none]
    t.WellFormed ∧ (∀ o ∈ t.operands, o.SpelledBy spell) ∧
      (Template.parse (t.print spell)).map Template.erasePos = .ok t.erasePos := by
  intro spell number test body t
  have hnumber : IsDecimal ['1', '.', '5'] :=
    ⟨[], ['1'], ['.', '5'], rfl, .inl rfl, by decide, .inr ⟨['5'], by decide, rfl⟩⟩
  have hpath : (⟨"notice", ["0", "true"]⟩ : Path).Regular := ⟨by decide, by decide⟩
  have hnames : IsIdentifier ['f'] ∧ IsIdentifier ['x'] := by decide
  have ht : t.WellFormed := by
    simp [t, body, test, number, Template.WellFormed, Node.WellFormedAll, Node.WellFormed,
      Node.WellFormedOpt, Branches.Tested, Branches.WellFormed, FilterExpr.WellFormed,
      FilterCall.WellFormed, Operand.WellFormed, Node.Joins, Node.text?, HasOpening,
      List.infix_cons_iff, hpath, hnames]
  have hspell : ∀ o ∈ t.operands, o.SpelledBy spell := by
    simp [t, body, test, number, Template.operands, Node.operandsAll, Node.operands,
      Node.operandsOpt, Branches.operands, FilterExpr.operands, Operand.SpelledBy, spell, hnumber]
  exact ⟨ht, hspell, parse_print ht hspell⟩

end Stencil
