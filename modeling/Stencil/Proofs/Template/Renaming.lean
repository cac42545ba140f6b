import Stencil.Template.Operands

/-!
# Templates with other variables

A template with its variables replaced, each by the one that a map of paths gives for it. Nothing
else changes: literals, names of filters and positions stay, and so does the shape of the tree.

## Main definitions

* `Operand.rename look`, `FilterExpr.rename look`, `Template.rename look`: variables are replaced as
  `look` says

## Main results

* `Node.operandsAll_renameAll`: the operands of a template with other variables
* `Node.renameAll_id`: a template whose variables are replaced by themselves
-/

namespace Stencil

/-! ## Replacing variables -/

variable (look : Path → Path)

/-- The operand with its variable replaced. -/
def Operand.rename (x : Operand) : Operand :=
  match x.term with
  | .literal _ => x
  | .variable p => { x with term := .variable (look p) }

/-- The call with the variable of its argument replaced. -/
def FilterCall.rename (call : FilterCall) : FilterCall :=
  { call with arg := call.arg.map (Operand.rename look) }

/-- The expression with its variables replaced. -/
def FilterExpr.rename (e : FilterExpr) : FilterExpr where
  base := e.base.rename look
  filters := e.filters.map (FilterCall.rename look)

/-- The condition with its variables replaced. -/
def Condition.rename (test : Condition) : Condition :=
  { test with test := test.test.rename look }

mutual

/-- The node with its variables replaced. -/
def Node.rename : Node → Node
  | .text content pos => .text content pos
  | .comment pos => .comment pos
  | .output expr pos => .output (expr.rename look) pos
  | .conditional branches pos => .conditional (Branches.rename branches) pos
  | .loop binding iterable body empty pos =>
    .loop binding (iterable.rename look) (Node.renameAll body) (Node.renameOpt empty) pos
  | .filtered call body pos => .filtered (call.rename look) (Node.renameAll body) pos

/-- Nodes with their variables replaced. -/
def Node.renameAll : List Node → List Node
  | [] => []
  | n :: rest => Node.rename n :: Node.renameAll rest

/-- A body that may be lacking, with its variables replaced. -/
def Node.renameOpt : Option (List Node) → Option (List Node)
  | none => none
  | some body => some (Node.renameAll body)

/-- Branches with their variables replaced. -/
def Branches.rename : Branches → Branches
  | .none => .none
  | .otherwise body => .otherwise (Node.renameAll body)
  | .when test body rest =>
    .when (test.rename look) (Node.renameAll body) (Branches.rename rest)

end

/-- The template with its variables replaced. -/
def Template.rename (t : Template) : Template :=
  Node.renameAll look t

/-! ## What stays -/

@[simp] theorem Operand.pos_rename (x : Operand) : (x.rename look).pos = x.pos := by
  rcases x with ⟨v | p, pos⟩ <;> rfl

@[simp] theorem FilterCall.name_rename (call : FilterCall) :
    (call.rename look).name = call.name := rfl

@[simp] theorem FilterCall.pos_rename (call : FilterCall) :
    (call.rename look).pos = call.pos := rfl

theorem FilterCall.isSome_arg_rename (call : FilterCall) :
    (call.rename look).arg.isSome = call.arg.isSome :=
  Option.isSome_map

theorem FilterExpr.outerPos_rename (e : FilterExpr) :
    (e.rename look).outerPos = e.outerPos := by
  rw [FilterExpr.outerPos, FilterExpr.outerPos, FilterExpr.rename, List.getLast?_map]
  cases e.filters.getLast? with
  | none => exact e.base.pos_rename look
  | some call => rfl

/-! ## Operands -/

theorem FilterExpr.operands_rename (e : FilterExpr) :
    (e.rename look).operands = e.operands.map (Operand.rename look) := by
  rw [FilterExpr.operands, FilterExpr.operands, FilterExpr.rename, List.map_cons,
    List.filterMap_map, List.map_filterMap]
  rfl

mutual

theorem Node.operands_rename (n : Node) :
    (n.rename look).operands = n.operands.map (Operand.rename look) := by
  match n with
  | .text _ _ | .comment _ => rfl
  | .output expr _ => exact expr.operands_rename look
  | .conditional branches _ => exact Branches.operands_rename branches
  | .loop _ iterable body empty _ =>
    rw [Node.rename, Node.operands, Node.operands, iterable.operands_rename look,
      Node.operandsAll_renameAll body, Node.operandsOpt_renameOpt empty, List.map_append,
      List.map_append]
  | .filtered call body _ =>
    rw [Node.rename, Node.operands, Node.operands, Node.operandsAll_renameAll body,
      List.map_append, FilterCall.rename, Option.toList_map]

theorem Node.operandsAll_renameAll (ns : List Node) :
    Node.operandsAll (Node.renameAll look ns) =
      (Node.operandsAll ns).map (Operand.rename look) := by
  match ns with
  | [] => rfl
  | n :: rest =>
    rw [Node.renameAll, Node.operandsAll, Node.operandsAll, Node.operands_rename n,
      Node.operandsAll_renameAll rest, List.map_append]

theorem Node.operandsOpt_renameOpt (ns : Option (List Node)) :
    Node.operandsOpt (Node.renameOpt look ns) =
      (Node.operandsOpt ns).map (Operand.rename look) := by
  match ns with
  | none => rfl
  | some body => exact Node.operandsAll_renameAll body

theorem Branches.operands_rename (b : Branches) :
    (b.rename look).operands = b.operands.map (Operand.rename look) := by
  match b with
  | .none => rfl
  | .otherwise body => exact Node.operandsAll_renameAll body
  | .when test body rest =>
    rw [Branches.rename, Branches.operands, Branches.operands, Condition.rename,
      test.test.operands_rename look, Node.operandsAll_renameAll body,
      Branches.operands_rename rest, List.map_append, List.map_append]

end

/-! ## Variables replaced by themselves -/

theorem Operand.rename_id (x : Operand) : x.rename id = x := by
  rcases x with ⟨v | p, pos⟩ <;> rfl

theorem FilterCall.rename_id (call : FilterCall) : call.rename id = call := by
  rw [FilterCall.rename, Option.map_congr fun x _ => x.rename_id, Option.map_id']

theorem FilterExpr.rename_id (e : FilterExpr) : e.rename id = e := by
  rw [FilterExpr.rename, e.base.rename_id, List.map_id'' FilterCall.rename_id]

mutual

theorem Node.rename_id (n : Node) : n.rename id = n := by
  match n with
  | .text _ _ | .comment _ => rfl
  | .output expr _ => rw [Node.rename, expr.rename_id]
  | .conditional branches _ => rw [Node.rename, Branches.rename_id branches]
  | .loop _ iterable body empty _ =>
    rw [Node.rename, iterable.rename_id, Node.renameAll_id body, Node.renameOpt_id empty]
  | .filtered call body _ => rw [Node.rename, call.rename_id, Node.renameAll_id body]

/-- A template whose variables are replaced by themselves is the template. -/
theorem Node.renameAll_id (ns : List Node) : Node.renameAll id ns = ns := by
  match ns with
  | [] => rfl
  | n :: rest => rw [Node.renameAll, Node.rename_id n, Node.renameAll_id rest]

theorem Node.renameOpt_id (ns : Option (List Node)) : Node.renameOpt id ns = ns := by
  match ns with
  | none => rfl
  | some body => rw [Node.renameOpt, Node.renameAll_id body]

theorem Branches.rename_id (b : Branches) : b.rename id = b := by
  match b with
  | .none => rfl
  | .otherwise body => rw [Branches.rename, Node.renameAll_id body]
  | .when test body rest =>
    rw [Branches.rename, Condition.rename, test.test.rename_id, Node.renameAll_id body,
      Branches.rename_id rest]

end

end Stencil
