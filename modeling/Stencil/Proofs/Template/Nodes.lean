import Stencil.Template.Operands

/-!
# All nodes of a template

What is said of a template as a whole, wherever in it something stands, is said of its nodes at any
depth. A node has expressions and calls of its own, apart from those of the nodes inside it: what it
writes out, tests or runs through, and the call that a block is sent through. So the calls and the
positions of a template are those of its nodes, one node after the other.

## Main definitions

* `Node.nodes`, `Template.nodes`: the nodes at any depth
* `Branches.bodies`: the bodies of a choice
* `Node.exprs`, `Node.block?`: the expressions of a node itself, and the call of a block
* `Node.ownOperands`: the operands of a node itself
* `Node.calls`, `Template.calls`: calls of filters
* `Node.positions`, `Template.positions`: the positions of nodes, calls and operands

## Main results

* `FilterExpr.outerPos_mem_positions`: the position of an expression is one of its parts'
* `Template.mem_operands`: the operands of a template are those of its nodes
-/

namespace Stencil

/-! ## Expressions -/

/-- The positions of a call and of its argument. -/
def FilterCall.positions (call : FilterCall) : List (Option Position) :=
  call.pos :: call.arg.toList.map Operand.pos

/-- The positions of the base of an expression, and of its calls and their arguments. -/
def FilterExpr.positions (e : FilterExpr) : List (Option Position) :=
  e.base.pos :: e.filters.flatMap FilterCall.positions

theorem FilterCall.pos_mem_positions (call : FilterCall) : call.pos ∈ call.positions :=
  List.mem_cons_self

theorem FilterCall.arg_pos_mem_positions {call : FilterCall} {x : Operand}
    (h : call.arg = some x) : x.pos ∈ call.positions := by
  simp [FilterCall.positions, h]

/-- The position that an expression as a whole is known by is that of one of its parts. -/
theorem FilterExpr.outerPos_mem_positions (e : FilterExpr) : e.outerPos ∈ e.positions := by
  rw [FilterExpr.outerPos]
  split
  · next call hlast =>
    have hcall : call ∈ e.filters := List.mem_of_getLast? hlast
    exact List.mem_cons_of_mem _ (List.mem_flatMap.mpr ⟨call, hcall, call.pos_mem_positions⟩)
  · exact List.mem_cons_self

/-! ## Nodes -/

mutual

/-- A node and the nodes in it, at any depth. -/
def Node.nodes : Node → List Node
  | .text content pos => [.text content pos]
  | .comment pos => [.comment pos]
  | .output expr pos => [.output expr pos]
  | .conditional branches pos => .conditional branches pos :: Branches.nodes branches
  | .loop binding iterable body empty pos =>
    .loop binding iterable body empty pos :: (Node.nodesAll body ++ Node.nodesOpt empty)
  | .filtered call body pos => .filtered call body pos :: Node.nodesAll body

/-- Some nodes and the nodes in them. -/
def Node.nodesAll : List Node → List Node
  | [] => []
  | n :: rest => Node.nodes n ++ Node.nodesAll rest

/-- The nodes of a body that may be lacking. -/
def Node.nodesOpt : Option (List Node) → List Node
  | none => []
  | some body => Node.nodesAll body

/-- The nodes in the branches of a choice. -/
def Branches.nodes : Branches → List Node
  | .none => []
  | .otherwise body => Node.nodesAll body
  | .when _ body rest => Node.nodesAll body ++ Branches.nodes rest

end

/-- The expressions that the branches of a choice test. -/
def Branches.tests : Branches → List FilterExpr
  | .none => []
  | .otherwise _ => []
  | .when test _ rest => test.test :: Branches.tests rest

/-- The bodies of a choice. -/
def Branches.bodies : Branches → List (List Node)
  | .none => []
  | .otherwise body => [body]
  | .when _ body rest => body :: Branches.bodies rest

theorem Node.nodes_subset_nodesAll {n : Node} {ns : List Node} (hn : n ∈ ns) :
    n.nodes ⊆ Node.nodesAll ns := by
  induction ns with
  | nil => cases hn
  | cons m rest ih =>
    rw [Node.nodesAll]
    rcases List.mem_cons.mp hn with rfl | hrest
    · exact List.subset_append_left _ _
    · exact List.Subset.trans (ih hrest) (List.subset_append_right _ _)

theorem Branches.nodesAll_subset_nodes (b : Branches) {body : List Node} (hbody : body ∈ b.bodies) :
    Node.nodesAll body ⊆ b.nodes := by
  match b with
  | .none => cases hbody
  | .otherwise only =>
    rw [Branches.nodes, List.mem_singleton.mp hbody]
    exact List.Subset.refl _
  | .when test first rest =>
    rw [Branches.nodes]
    rcases List.mem_cons.mp hbody with rfl | hrest
    · exact List.subset_append_left _ _
    · exact List.Subset.trans (Branches.nodesAll_subset_nodes rest hrest)
        (List.subset_append_right _ _)

namespace Node

theorem self_mem_nodes (n : Node) : n ∈ n.nodes := by
  cases n <;> simp [Node.nodes]

/-- The expressions of a node itself: what it writes out, tests or runs through. -/
def exprs : Node → List FilterExpr
  | .output expr _ => [expr]
  | .conditional branches _ => branches.tests
  | .loop _ iterable _ _ _ => [iterable]
  | _ => []

/-- The call that a block is sent through. -/
def block? : Node → Option FilterCall
  | .filtered call _ _ => some call
  | _ => none

/-- The operands of a node itself. -/
def ownOperands (n : Node) : List Operand :=
  n.exprs.flatMap FilterExpr.operands ++ n.block?.toList.flatMap (·.arg.toList)

/-- The calls of a node itself. -/
def calls (n : Node) : List FilterCall :=
  n.exprs.flatMap FilterExpr.filters ++ n.block?.toList

/-- The positions of a node itself, and of its operands and calls. -/
def positions (n : Node) : List (Option Position) :=
  n.pos :: (n.exprs.flatMap FilterExpr.positions ++ n.block?.toList.flatMap FilterCall.positions)

theorem pos_mem_positions (n : Node) : n.pos ∈ n.positions :=
  List.mem_cons_self

theorem mem_positions_of_mem_exprs {n : Node} {e : FilterExpr} (he : e ∈ n.exprs)
    {x : Option Position} (hx : x ∈ e.positions) : x ∈ n.positions := by
  refine List.mem_cons_of_mem _ (List.mem_append_left _ ?_)
  exact List.mem_flatMap.mpr ⟨e, he, hx⟩

theorem mem_calls_of_mem_exprs {n : Node} {e : FilterExpr} (he : e ∈ n.exprs) {call : FilterCall}
    (hcall : call ∈ e.filters) : call ∈ n.calls :=
  List.mem_append_left _ (List.mem_flatMap.mpr ⟨e, he, hcall⟩)

/-- The positions of a call are among those of the node whose call it is. -/
theorem mem_positions_of_mem_calls {n : Node} {call : FilterCall} (hcall : call ∈ n.calls)
    {x : Option Position} (hx : x ∈ call.positions) : x ∈ n.positions := by
  rcases List.mem_append.mp hcall with hexpr | hblock
  · obtain ⟨e, he, hfilter⟩ := List.mem_flatMap.mp hexpr
    apply mem_positions_of_mem_exprs he
    exact List.mem_cons_of_mem _ (List.mem_flatMap.mpr ⟨call, hfilter, hx⟩)
  · refine List.mem_cons_of_mem _ (List.mem_append_right _ ?_)
    exact List.mem_flatMap.mpr ⟨call, hblock, hx⟩

end Node

/-! ## Operands -/

mutual

theorem Node.mem_operands (n : Node) (x : Operand) :
    x ∈ n.operands ↔ ∃ m ∈ n.nodes, x ∈ m.ownOperands := by
  match n with
  | .text _ _ | .comment _ =>
    simp [Node.operands, Node.nodes, Node.ownOperands, Node.exprs, Node.block?]
  | .output expr _ =>
    simp [Node.operands, Node.nodes, Node.ownOperands, Node.exprs, Node.block?]
  | .conditional branches _ =>
    have hbranches := Branches.mem_operands branches x
    simp [Node.operands, Node.nodes, Node.ownOperands, Node.exprs, Node.block?, hbranches]
  | .loop _ iterable body empty _ =>
    have hbody := Node.mem_operandsAll body x
    have hempty := Node.mem_operandsOpt empty x
    simp [Node.operands, Node.nodes, Node.ownOperands, Node.exprs, Node.block?, hbody, hempty,
      or_and_right, exists_or]
  | .filtered call body _ =>
    have hbody := Node.mem_operandsAll body x
    simp [Node.operands, Node.nodes, Node.ownOperands, Node.exprs, Node.block?, hbody, or_comm]

theorem Node.mem_operandsAll (ns : List Node) (x : Operand) :
    x ∈ Node.operandsAll ns ↔ ∃ m ∈ Node.nodesAll ns, x ∈ m.ownOperands := by
  match ns with
  | [] => simp [Node.operandsAll, Node.nodesAll]
  | n :: rest =>
    have hn := Node.mem_operands n x
    have hrest := Node.mem_operandsAll rest x
    simp [Node.operandsAll, Node.nodesAll, hn, hrest, or_and_right, exists_or]

theorem Node.mem_operandsOpt (ns : Option (List Node)) (x : Operand) :
    x ∈ Node.operandsOpt ns ↔ ∃ m ∈ Node.nodesOpt ns, x ∈ m.ownOperands := by
  match ns with
  | none => simp [Node.operandsOpt, Node.nodesOpt]
  | some body => exact Node.mem_operandsAll body x

/-- The operands of the tests belong to the choice itself, the others to the nodes in it. -/
theorem Branches.mem_operands (b : Branches) (x : Operand) :
    x ∈ b.operands ↔ (∃ e ∈ b.tests, x ∈ e.operands) ∨ ∃ m ∈ b.nodes, x ∈ m.ownOperands := by
  match b with
  | .none => simp [Branches.operands, Branches.tests, Branches.nodes]
  | .otherwise body =>
    have hbody := Node.mem_operandsAll body x
    simp [Branches.operands, Branches.tests, Branches.nodes, hbody]
  | .when test body rest =>
    have hbody := Node.mem_operandsAll body x
    have hrest := Branches.mem_operands rest x
    simp [Branches.operands, Branches.tests, Branches.nodes, hbody, hrest, or_and_right, exists_or,
      or_assoc, or_left_comm]

end

namespace Template

/-- All nodes of a template. -/
def nodes (t : Template) : List Node :=
  Node.nodesAll t

/-- The operands of a template are those of its nodes. -/
theorem mem_operands {t : Template} {x : Operand} :
    x ∈ t.operands ↔ ∃ n ∈ t.nodes, x ∈ n.ownOperands :=
  Node.mem_operandsAll t x

/-- All calls of filters in a template: in what it writes out, tests or runs through, in the heads
of blocks and in their bodies. -/
def calls (t : Template) : List FilterCall :=
  t.nodes.flatMap Node.calls

/-- The positions of all nodes, calls and operands of a template. -/
def positions (t : Template) : List (Option Position) :=
  t.nodes.flatMap Node.positions

end Template

end Stencil
