import Stencil.Proofs.Grammar.Layout
import Stencil.Proofs.Template.Nodes

/-!
# Parts of a layout

In a layout everything is laid out: the nodes at any depth, their expressions and calls, and the
operands of these, each on characters of its own. So what is said of all nodes, calls or operands of
a parsed template can be read off the layout of a single one.

## Main results

* `Node.SpelledAll.of_mem_nodesAll`: the nodes of a layout
* `Node.Spelled.of_mem_exprs`, `Node.Spelled.of_block?`, `Node.Spelled.of_mem_ownOperands`: the
  expressions of a node, the call of a block, and the operands of a node
* `Template.spelled_of_mem_nodes`: the nodes of a parsed template
-/

namespace Stencil

open Grammar

/-! ## Nodes of a layout -/

section Nodes

variable {source : String}

mutual

theorem Node.Spelled.of_mem_nodes (n : Node) {before cs : List Char}
    (h : n.Spelled source before cs) : ∀ m ∈ n.nodes, ∃ before cs, m.Spelled source before cs := by
  intro m hm
  match n with
  | .text content pos =>
    rw [List.mem_singleton.mp hm]
    exact ⟨before, cs, h⟩
  | .comment pos =>
    rw [List.mem_singleton.mp hm]
    exact ⟨before, cs, h⟩
  | .output expr pos =>
    rw [List.mem_singleton.mp hm]
    exact ⟨before, cs, h⟩
  | .conditional branches pos =>
    rw [Node.nodes] at hm
    rcases List.mem_cons.mp hm with rfl | hinside
    · exact ⟨before, cs, h⟩
    cases h with
    | conditional htest hbody hrest hclosing =>
      rw [Branches.nodes] at hinside
      rcases List.mem_append.mp hinside with hm | hm
      · exact Node.SpelledAll.of_mem_nodesAll _ hbody m hm
      · exact Branches.Spelled.of_mem_nodes _ hrest m hm
  | .loop binding iterable body empty pos =>
    rw [Node.nodes] at hm
    rcases List.mem_cons.mp hm with rfl | hinside
    · exact ⟨before, cs, h⟩
    cases h with
    | loop hhead hbody hempty hclosing =>
      rcases List.mem_append.mp hinside with hm | hm
      · exact Node.SpelledAll.of_mem_nodesAll body hbody m hm
      · exact Node.SpelledEmpty.of_mem_nodesOpt empty hempty m hm
  | .filtered call body pos =>
    rw [Node.nodes] at hm
    rcases List.mem_cons.mp hm with rfl | hinside
    · exact ⟨before, cs, h⟩
    cases h with
    | filtered hcall hbody hclosing => exact Node.SpelledAll.of_mem_nodesAll body hbody m hinside

/-- **In a layout every node is laid out**, at whatever depth it stands. -/
theorem Node.SpelledAll.of_mem_nodesAll (ns : List Node) {before cs : List Char}
    (h : Node.SpelledAll source before ns cs) :
    ∀ m ∈ Node.nodesAll ns, ∃ before cs, m.Spelled source before cs := by
  match ns with
  | [] => exact fun m hm => (List.not_mem_nil hm).elim
  | n :: rest =>
    cases h with
    | cons hn hrest =>
      intro m hm
      rcases List.mem_append.mp hm with hm | hm
      · exact Node.Spelled.of_mem_nodes n hn m hm
      · exact Node.SpelledAll.of_mem_nodesAll rest hrest m hm

theorem Node.SpelledEmpty.of_mem_nodesOpt (ns : Option (List Node)) {before cs : List Char}
    (h : Node.SpelledEmpty source before ns cs) :
    ∀ m ∈ Node.nodesOpt ns, ∃ before cs, m.Spelled source before cs := by
  match ns with
  | none => exact fun m hm => (List.not_mem_nil hm).elim
  | some body =>
    cases h with
    | some htag hbody => exact Node.SpelledAll.of_mem_nodesAll body hbody

theorem Branches.Spelled.of_mem_nodes (b : Branches) {before cs : List Char}
    (h : b.Spelled source before cs) : ∀ m ∈ b.nodes, ∃ before cs, m.Spelled source before cs := by
  match b with
  | .none => exact fun m hm => (List.not_mem_nil hm).elim
  | .otherwise body =>
    cases h with
    | otherwise htag hbody => exact Node.SpelledAll.of_mem_nodesAll body hbody
  | .when test body rest =>
    cases h with
    | when htest hbody hrest =>
      intro m hm
      rcases List.mem_append.mp hm with hm | hm
      · exact Node.SpelledAll.of_mem_nodesAll body hbody m hm
      · exact Branches.Spelled.of_mem_nodes rest hrest m hm

end

end Nodes

/-! ## Expressions, calls and operands of a node -/

section Parts

variable {source : String} {before cs : List Char}

theorem FilterCall.Spelled.pos {call : FilterCall} (h : call.Spelled source before cs) :
    call.pos = some (.behind source before) := by
  cases h <;> rfl

theorem FilterCall.Spelled.arg {call : FilterCall} (h : call.Spelled source before cs) :
    ∀ x ∈ call.arg, ∃ before cs, x.Spelled source before cs := by
  cases h with
  | plain hname => exact nofun
  | withArg hname harg =>
    intro x hx
    obtain rfl := Option.mem_some_iff.mp hx
    exact ⟨_, _, harg⟩

theorem FilterCall.Piped.of_sequence {calls : List FilterCall}
    (h : Sequence (FilterCall.Piped source) before calls cs) :
    ∀ call ∈ calls, ∃ before cs, call.Spelled source before cs := by
  induction h with
  | nil => exact fun call hcall => (List.not_mem_nil hcall).elim
  | cons head tail ih =>
    obtain ⟨left, right, inner, -, -, hspelled, -⟩ := head
    exact List.forall_mem_cons.mpr ⟨⟨_, _, hspelled⟩, ih⟩

theorem FilterExpr.Spelled.of_mem_filters {e : FilterExpr} (h : e.Spelled source before cs) :
    ∀ call ∈ e.filters, ∃ before cs, call.Spelled source before cs := by
  obtain ⟨base, calls, -, hcalls, -⟩ := h
  exact FilterCall.Piped.of_sequence hcalls

theorem FilterExpr.Spelled.of_mem_operands {e : FilterExpr} (h : e.Spelled source before cs) :
    ∀ x ∈ e.operands, ∃ before cs, x.Spelled source before cs := by
  have hfilters := h.of_mem_filters
  obtain ⟨base, calls, hbase, -, -⟩ := h
  refine List.forall_mem_cons.mpr ⟨⟨_, _, hbase⟩, fun x hx => ?_⟩
  obtain ⟨call, hcall, harg⟩ := List.mem_filterMap.mp hx
  obtain ⟨before', cs', hspelled⟩ := hfilters call hcall
  exact hspelled.arg x harg

theorem Condition.Spelled.test {test : Condition} (h : test.Spelled source before cs) :
    ∃ before cs, test.test.Spelled source before cs := by
  cases h with
  | plain he => exact ⟨_, _, he⟩
  | negated hne hspaces he => exact ⟨_, _, he⟩

/-- The tests of further branches, which belong to the node that the branches are of. -/
theorem Branches.Spelled.of_mem_tests (b : Branches) {before cs : List Char}
    (h : b.Spelled source before cs) : ∀ e ∈ b.tests, ∃ before cs, e.Spelled source before cs := by
  match b with
  | .none => exact fun e he => (List.not_mem_nil he).elim
  | .otherwise body => exact fun e he => (List.not_mem_nil he).elim
  | .when test body rest =>
    cases h with
    | when htest hbody hrest =>
      obtain ⟨opening, spaces, inner, closing, -, -, -, hspelled, -⟩ := htest
      exact List.forall_mem_cons.mpr ⟨hspelled.test, Branches.Spelled.of_mem_tests rest hrest⟩

namespace Node.Spelled

variable {n : Node}

theorem pos (h : n.Spelled source before cs) : n.pos = some (.behind source before) := by
  cases h <;> rfl

/-- The expressions of a node itself are laid out. -/
theorem of_mem_exprs (h : n.Spelled source before cs) :
    ∀ e ∈ n.exprs, ∃ before cs, e.Spelled source before cs := by
  cases h with
  | text hne hcontent => exact nofun
  | comment hinner => exact nofun
  | output hleft hexpr hright => exact List.forall_mem_singleton.mpr ⟨_, _, hexpr⟩
  | @conditional _ tag inner tail closing test body rest htest hbody hrest hclosing =>
    obtain ⟨opening, spaces, phrase, mark, -, -, -, hspelled, -⟩ := htest
    exact List.forall_mem_cons.mpr ⟨hspelled.test, Branches.Spelled.of_mem_tests rest hrest⟩
  | loop hhead hbody hempty hclosing =>
    obtain ⟨opening, spaces, phrase, mark, -, -, -, hloop, -⟩ := hhead
    obtain ⟨name, left, right, items, -, -, -, -, -, -, hspelled, -⟩ := hloop
    exact List.forall_mem_singleton.mpr ⟨_, _, hspelled⟩
  | filtered hcall hbody hclosing => exact nofun

/-- The call of a block is laid out. -/
theorem of_block? (h : n.Spelled source before cs) :
    ∀ call ∈ n.block?, ∃ before cs, call.Spelled source before cs := by
  cases h with
  | filtered hcall hbody hclosing =>
    obtain ⟨opening, spaces, phrase, mark, -, -, -, hspelled, -⟩ := hcall
    intro call hcall
    obtain rfl := Option.mem_some_iff.mp hcall
    exact ⟨_, _, hspelled⟩
  | _ => exact nofun

theorem of_mem_ownOperands (h : n.Spelled source before cs) :
    ∀ x ∈ n.ownOperands, ∃ before cs, x.Spelled source before cs := by
  intro x hx
  rcases List.mem_append.mp hx with hx | hx
  · obtain ⟨e, he, hx⟩ := List.mem_flatMap.mp hx
    obtain ⟨before', cs', hspelled⟩ := h.of_mem_exprs e he
    exact hspelled.of_mem_operands x hx
  · obtain ⟨call, hcall, hx⟩ := List.mem_flatMap.mp hx
    obtain ⟨before', cs', hspelled⟩ := h.of_block? call (Option.mem_toList.mp hcall)
    exact hspelled.arg x (Option.mem_toList.mp hx)

end Node.Spelled

end Parts

/-- Every node of a parsed template is laid out on characters of its source. -/
theorem Template.spelled_of_mem_nodes {source : String} {t : Template}
    (h : Template.parse source = .ok t) {n : Node} (hn : n ∈ t.nodes) :
    ∃ before cs, n.Spelled source before cs := by
  obtain ⟨j, hread⟩ := Template.parse_eq_ok_iff.mp h
  have hinput : Input.ofSource source = ⟨Cursor.start.past [], source.toList⟩ := rfl
  rw [hinput] at hread
  obtain ⟨cs, -, -, hspelled, -⟩ := reads_template source.toList t j rfl hread
  exact Node.SpelledAll.of_mem_nodesAll t hspelled n hn

end Stencil
