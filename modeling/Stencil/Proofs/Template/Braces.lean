import Stencil.Proofs.Grammar.Enclosure
import Stencil.Proofs.Template.RoundTrip

/-!
# The source of an expression

A source can be parsed as an expression, or put between braces and parsed as a template. The
template then consists of a single value that is written out if and only if the source is an
expression, and this expression is the value, apart from its positions on the first line. Spaces at
the ends of the source are excluded: they are allowed between braces, and are no part of an
expression.

## Main results

* `result_template_eq_some_singleton_iff`: templates of a single node
* `result_node_openingBraces`: where braces open, only a value can be read
* `parse_braced_eq_singleton_iff`: expressions parsed by themselves and between braces
-/

namespace Stencil

open Grammar Scan Reader

/-! ## Templates of a single node -/

section Nodes

variable {n : Nat} {i j : Input} {k : Cursor} {cs : List Char} {x : Node}

/-- Where no node is read, no character is. -/
theorem eq_of_result_nodes_nil (h : (nodes n i).result = some ([], j)) : j = i := by
  cases n with
  | zero => exact (Prod.mk.inj (Option.some.inj h)).2.symm
  | succ n =>
    rw [nodes, result_orElse, Option.or_eq_some_iff] at h
    rcases h with hcons | ⟨-, hnil⟩
    · obtain ⟨first, _, -, hnext⟩ := (result_bind_eq_some_iff _ _ _).mp hcons
      obtain ⟨others, _, -, hpair⟩ := (result_bind_eq_some_iff _ _ _).mp hnext
      cases (Prod.mk.inj (Option.some.inj hpair)).1
    · exact (Prod.mk.inj (Option.some.inj hnil)).2.symm

theorem result_nodes_at_end : (nodes n ⟨k, []⟩).result = some ([], ⟨k, []⟩) := by
  cases n with
  | zero => rfl
  | succ n =>
    have hfails : Fails (node (nodes n) n) [] := by
      have hfollows : Follows false [] := rfl
      exact fails_node hfollows
    rw [nodes, result_orElse, result_bind, hfails k]
    rfl

/-- A template is the nodes of its source, if no character is left behind them. -/
theorem result_template_eq_some_iff {t : Template} :
    (template ⟨k, cs⟩).result = some (t, j) ↔
      (nodes (cs.length + 1) ⟨k, cs⟩).result = some (t, j) ∧ j.rest = [] := by
  unfold template
  rw [result_tracked, result_bind_eq_some_iff]
  constructor
  · rintro ⟨found, i, hfound, hend⟩
    obtain ⟨_, i', hstop, hpair⟩ := (result_bind_eq_some_iff _ _ _).mp hend
    rw [result_tracked, endOfInput] at hstop
    cases hrest : i.rest with
    | nil =>
      rw [hrest] at hstop
      obtain ⟨-, rfl⟩ := Prod.mk.inj (Option.some.inj hstop)
      obtain ⟨rfl, rfl⟩ := Prod.mk.inj (Option.some.inj hpair)
      exact ⟨hfound, hrest⟩
    | cons c rest =>
      rw [hrest] at hstop
      cases hstop
  · rintro ⟨hfound, hrest⟩
    refine ⟨t, j, hfound, (result_bind_eq_some_iff _ _ _).mpr ⟨(), j, ?_, rfl⟩⟩
    rw [result_tracked, endOfInput, hrest]

/-- A template has a single node if reading that node leaves nothing. -/
theorem result_template_eq_some_singleton_iff :
    (template ⟨k, cs⟩).result = some ([x], j) ↔
      (node (nodes cs.length) cs.length ⟨k, cs⟩).result = some (x, j) ∧ j.rest = [] := by
  rw [result_template_eq_some_iff, nodes, result_orElse, Option.or_eq_some_iff,
    result_bind_eq_some_iff]
  refine and_congr_left fun hrest => ?_
  constructor
  · rintro (⟨first, i, hfirst, hnext⟩ | ⟨-, hnil⟩)
    · obtain ⟨others, i', hothers, hpair⟩ := (result_bind_eq_some_iff _ _ _).mp hnext
      obtain ⟨hvalues, rfl⟩ := Prod.mk.inj (Option.some.inj hpair)
      obtain ⟨rfl, rfl⟩ := List.cons.inj hvalues
      rw [eq_of_result_nodes_nil hothers]
      exact hfirst
    · cases hnil
  · intro hfirst
    obtain ⟨cursor, rest⟩ := j
    obtain rfl : rest = [] := hrest
    exact .inl ⟨x, _, hfirst, (result_bind_eq_some_iff _ _ _).mpr
      ⟨[], _, result_nodes_at_end, rfl⟩⟩

end Nodes

/-! ## Values between braces -/

section Braces

variable {body : Reader (List Node)} {n : Nat} {i j : Input} {k : Cursor} {cs : List Char}

/-- Where braces open, the only node that can be read is a value that is written out. -/
theorem result_node_openingBraces :
    (node body n ⟨k, openingBraces ++ cs⟩).result =
      (outputNode ⟨k, openingBraces ++ cs⟩).result := by
  have hcomment : Fails commentNode (openingBraces ++ cs) :=
    fails_commentNode (by simp [openingBraces])
  have htag (word : String) : LacksTag word (openingBraces ++ cs) :=
    lacksTag_of_not_isPrefix (by simp [openingBraces])
  have htext : Fails textNode (openingBraces ++ cs) :=
    fun k => Fails.bind (.tracked (.lexeme (text_eq_none rfl))) k
  have hothers : Fails (conditionalNode body n <|> loopNode body <|> filteredNode body <|> textNode)
      (openingBraces ++ cs) :=
    .orElse (fails_conditionalNode (htag "if")) (.orElse (fails_loopNode (htag "for"))
      (.orElse (fails_filteredNode (htag "filter")) htext))
  rw [node, result_orElse, hcomment k, Option.none_or, result_orElse, hothers k, Option.or_none]

theorem rest_of_symbol {s : String} {u : Unit} (h : (symbol s i).result = some (u, j)) :
    i.rest = s.toList ++ j.rest := by
  obtain ⟨found, i', hfound, hpair⟩ := (result_bind_eq_some_iff _ _ _).mp h
  obtain ⟨-, rfl⟩ := Prod.mk.inj (Option.some.inj hpair)
  rw [result_lexeme, Option.map_eq_some_iff] at hfound
  obtain ⟨⟨cs, rest⟩, hscan, hresult⟩ := hfound
  obtain ⟨rfl, rfl⟩ := Prod.mk.inj hresult
  rw [← finds_literal _ _ _ _ hscan]
  exact (lossless_literal _ _ _ _ hscan).symm

/-- A value is closed where only spaces and the closing braces are left. -/
theorem result_closing_iff {x y : Node} :
    (∃ j, ((blanks >>= fun _ => symbol "\x7d\x7d" >>= fun _ => pure x) i).result = some (y, j) ∧
      j.rest = []) ↔
      y = x ∧ ∃ spaces, IsBlank spaces ∧ i.rest = spaces ++ closingBraces := by
  constructor
  · rintro ⟨j, hread, hrest⟩
    obtain ⟨_, i', hblanks, hnext⟩ := (result_bind_eq_some_iff _ _ _).mp hread
    obtain ⟨_, i'', hbraces, hpair⟩ := (result_bind_eq_some_iff _ _ _).mp hnext
    obtain ⟨rfl, rfl⟩ := Prod.mk.inj (Option.some.inj hpair)
    obtain ⟨-, rfl⟩ := Prod.mk.inj (Option.some.inj hblanks)
    have hclosing := rest_of_symbol hbraces
    rw [hrest, List.append_nil] at hclosing
    have hdrop : i.rest.dropWhile isSpace = closingBraces := hclosing
    refine ⟨rfl, i.rest.takeWhile isSpace, List.all_eq_true.mp List.all_takeWhile, ?_⟩
    rw [← hdrop, List.takeWhile_append_dropWhile]
  · rintro ⟨rfl, spaces, hspaces, hrest⟩
    have htakes : Takes (blanks >>= fun _ => symbol "\x7d\x7d" >>= fun _ => pure y)
        (spaces ++ closingBraces) [] (· = y) :=
      .bind (.blanks hspaces ((stops_cons _ _ _).mpr rfl)) fun _ _ =>
        .bind_pure (.symbol "\x7d\x7d") fun _ _ => rfl
    obtain ⟨cursor, rest⟩ := i
    obtain ⟨_, hread, rfl⟩ := htakes cursor
    rw [List.append_nil] at hread
    obtain rfl : rest = spaces ++ closingBraces := hrest
    exact ⟨_, hread, rfl⟩

theorem result_outputNode_iff {x : Node} (hcs : Stops isSpace cs) :
    (∃ j, (outputNode ⟨k, openingBraces ++ cs⟩).result = some (x, j) ∧ j.rest = []) ↔
      ∃ e i, (filterExpression ⟨k.past openingBraces, cs⟩).result = some (e, i) ∧
        x = .output e (some k.position) ∧
        ∃ spaces, IsBlank spaces ∧ i.rest = spaces ++ closingBraces := by
  -- The opening braces are read, and no spaces behind them.
  have hopening : (symbol "\x7b\x7b" ⟨k, openingBraces ++ cs⟩).result =
      some ((), ⟨k.past openingBraces, cs⟩) := by
    have hsymbol : Takes (symbol "\x7b\x7b") openingBraces cs fun _ => True := .symbol _
    obtain ⟨_, hread, -⟩ := hsymbol k
    exact hread
  have hblanks : (blanks ⟨k.past openingBraces, cs⟩).result =
      some ((), ⟨k.past openingBraces, cs⟩) := by
    have hnone : Takes blanks [] cs fun _ => True := .blanks (by simp) hcs
    obtain ⟨_, hread, -⟩ := hnone (k.past openingBraces)
    exact hread
  have hstart : (outputNode ⟨k, openingBraces ++ cs⟩).result =
      ((filterExpression >>= fun e => blanks >>= fun _ => symbol "\x7d\x7d" >>= fun _ =>
        pure (.output e (some k.position))) ⟨k.past openingBraces, cs⟩).result := by
    rw [outputNode, result_tracked, result_bind, result_position, Option.bind_some]
    dsimp only
    rw [result_bind, hopening, Option.bind_some]
    dsimp only
    rw [result_bind, hblanks, Option.bind_some]
  rw [hstart]
  constructor
  · rintro ⟨j, hread, hrest⟩
    obtain ⟨e, i, hexpr, hnext⟩ := (result_bind_eq_some_iff _ _ _).mp hread
    obtain ⟨hx, hclosing⟩ := result_closing_iff.mp ⟨j, hnext, hrest⟩
    exact ⟨e, i, hexpr, hx, hclosing⟩
  · rintro ⟨e, i, hexpr, hx, hclosing⟩
    obtain ⟨j, hnext, hrest⟩ := result_closing_iff.mpr ⟨hx, hclosing⟩
    exact ⟨j, (result_bind_eq_some_iff _ _ _).mpr ⟨e, i, hexpr, hnext⟩, hrest⟩

end Braces

/-- The source of an expression between braces. -/
def braced (source : String) : String :=
  "\x7b\x7b" ++ source ++ "\x7d\x7d"

/-- A value between braces is read as an expression, up to spaces behind it. -/
theorem parse_braced_iff {source : String} (hhead : Stops isSpace source.toList) {x : Node} :
    Template.parse (braced source) = .ok [x] ↔
      ∃ e i, (filterExpression ⟨Cursor.start.past openingBraces,
          source.toList ++ closingBraces⟩).result = some (e, i) ∧
        x = .output e (some .start) ∧
        ∃ spaces, IsBlank spaces ∧ i.rest = spaces ++ closingBraces := by
  have hsource : (braced source).toList = openingBraces ++ (source.toList ++ closingBraces) := by
    simp [braced, openingBraces, closingBraces]
  have hstops : Stops isSpace (source.toList ++ closingBraces) := by
    cases hlist : source.toList with
    | nil => exact (stops_cons _ _ _).mpr rfl
    | cons c cs =>
      rw [hlist] at hhead
      exact hhead
  rw [Template.parse_eq_ok_iff, Input.ofSource, hsource]
  simp only [result_template_eq_some_singleton_iff, result_node_openingBraces]
  exact result_outputNode_iff hstops

/-- No spaces are left over at the end of a source that does not end with one. -/
theorem eq_nil_of_isBlank {cs spaces : List Char} (hlast : Stops isSpace (cs ++ spaces).reverse)
    (hspaces : IsBlank spaces) : spaces = [] := by
  rcases List.eq_nil_or_concat spaces with rfl | ⟨init, c, rfl⟩
  · rfl
  · rw [List.concat_eq_append] at hspaces hlast
    have hc : isSpace c := hspaces c (List.mem_append_right init List.mem_cons_self)
    rw [← List.append_assoc, List.reverse_concat, stops_cons, hc] at hlast
    cases hlast

/-- **Expressions parsed by themselves and between braces**: the only node between braces is a value
if and only if the source is an expression, and then it is this expression, two columns further to
the right on the first line. -/
theorem parse_braced_eq_singleton_iff {source : String} (hhead : Stops isSpace source.toList)
    (hlast : Stops isSpace source.toList.reverse) {x : Node} :
    Template.parse (braced source) = .ok [x] ↔
      ∃ e, FilterExpr.parse source = .ok e ∧
        x = .output (e.mapPos (.indent 2)) (some .start) := by
  have hinput : Input.ofSource source = ⟨Cursor.start.past [], source.toList⟩ := rfl
  have halike := alike_filterExpression _ _ (.intro [] source.toList)
  rw [parse_braced_iff hhead]
  simp only [FilterExpr.parse_eq_ok_iff, hinput]
  rcases halike with ⟨hnone, hnone'⟩ | ⟨e, i, j, hread, hread', hnext⟩
  · -- Neither of the two reads an expression.
    rw [List.append_nil] at hnone'
    constructor
    · rintro ⟨e, i, hexpr, -⟩
      rw [hnone'] at hexpr
      cases hexpr
    · rintro ⟨e, ⟨k, hexpr⟩, -⟩
      rw [hnone] at hexpr
      cases hexpr
  · rw [List.append_nil] at hread'
    obtain ⟨before, ahead⟩ := hnext
    constructor
    · rintro ⟨e', i', hexpr, rfl, spaces, hspaces, hrest⟩
      obtain ⟨rfl, rfl⟩ := Prod.mk.inj (Option.some.inj (hread'.symm.trans hexpr))
      obtain rfl : ahead = spaces := List.append_cancel_right hrest
      -- What is left of the source are spaces, but the source does not end with a space.
      obtain ⟨cs, hsplit, -, -⟩ := reads_filterExpression source.toList e _ rfl hread
      rw [hsplit] at hlast
      obtain rfl := eq_nil_of_isBlank hlast hspaces
      exact ⟨e, ⟨_, hread⟩, rfl⟩
    · rintro ⟨e', ⟨k, hexpr⟩, rfl⟩
      obtain ⟨rfl, hend⟩ := Prod.mk.inj (Option.some.inj (hread.symm.trans hexpr))
      obtain rfl : ahead = [] := congrArg Input.rest hend
      exact ⟨_, _, hread', rfl, [], by simp [IsBlank], rfl⟩

/-- An expression with braces in a string literal, which goes on to the second line. -/
theorem parse_braced_eq_singleton_iff_lines :
    let source := "a|f:'\x7d\x7d\n'|g"
    ∃ e, FilterExpr.parse source = .ok e ∧
      e.filters.map FilterCall.pos = [some ⟨1, 3⟩, some ⟨2, 3⟩] ∧
      Template.parse (braced source) =
        .ok [.output (e.mapPos (.indent 2)) (some .start)] := by
  intro source
  have hhead : Stops isSpace source.toList := by simp [source, Stops, isSpace]
  have hlast : Stops isSpace source.toList.reverse := by simp [source, Stops, isSpace]
  have hread : (FilterExpr.parse source).toOption.map (·.filters.map FilterCall.pos) =
      some [some ⟨1, 3⟩, some ⟨2, 3⟩] := by
    decide +kernel
  generalize source = source at hhead hlast hread ⊢
  cases hparse : FilterExpr.parse source with
  | error err =>
    rw [hparse] at hread
    cases hread
  | ok e =>
    rw [hparse] at hread
    exact ⟨e, rfl, Option.some.inj hread,
      (parse_braced_eq_singleton_iff hhead hlast).mpr ⟨e, hparse, rfl⟩⟩

end Stencil
