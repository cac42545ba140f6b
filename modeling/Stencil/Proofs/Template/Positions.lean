import Stencil.Proofs.Grammar.Parts

/-!
# Positions of parsed templates

A template that is read from a source lacks no position: every node, call and operand was read from
characters of the source, and stands in a line and a column that are counted from one.

## Main definitions

* `Position.Known x`: there is a position, and it is one of a source

## Main results

* `Position.known_behind`: characters of a source stand at known positions
* `Node.Spelled.known`: so does all that is laid out on them
* `Template.known_of_parse`: the positions of a parsed template are known
-/

namespace Stencil

open Grammar

/-! ## Known positions -/

namespace Position

/-- There is a position, and its line and its column count from one. -/
def Known (x : Option Position) : Prop :=
  ∃ p : Position, x = some p ∧ 1 ≤ p.line ∧ 1 ≤ p.column

theorem one_le_foldl_advance (cs : List Char) {p : Position} (hp : 1 ≤ p.line ∧ 1 ≤ p.column) :
    1 ≤ (cs.foldl advance p).line ∧ 1 ≤ (cs.foldl advance p).column := by
  induction cs generalizing p with
  | nil => exact hp
  | cons c cs ih =>
    apply ih
    -- A newline starts the next line at its first column; any other character moves on by one.
    rw [advance]
    split
    · exact ⟨Nat.le_add_left 1 p.line, Nat.le_refl 1⟩
    · exact ⟨hp.1, Nat.le_add_left 1 p.column⟩

/-- What stands behind some characters of a source stands at a known position. -/
theorem known_behind (source : String) (before : List Char) :
    Known (some (.behind source before)) :=
  ⟨_, rfl, one_le_foldl_advance _ ⟨Nat.le_refl 1, Nat.le_refl 1⟩⟩

theorem Known.getD_ne_unknown {x : Option Position} (h : Known x) :
    x.getD .unknown ≠ .unknown := by
  obtain ⟨p, rfl, hline, -⟩ := h
  intro hunknown
  have hzero : p.line = 0 := congrArg Position.line hunknown
  omega

end Position

open Position (Known known_behind)

/-! ## Layouts -/

section Layouts

variable {source : String} {before cs : List Char}

theorem Operand.Spelled.known {x : Operand} (h : x.Spelled source before cs) : Known x.pos := by
  rw [h.pos]
  exact known_behind source before

theorem FilterCall.Spelled.known {call : FilterCall} (h : call.Spelled source before cs) :
    ∀ x ∈ call.positions, Known x := by
  refine List.forall_mem_cons.mpr ⟨?_, fun x hx => ?_⟩
  · rw [h.pos]
    exact known_behind source before
  · obtain ⟨arg, harg, rfl⟩ := List.mem_map.mp hx
    obtain ⟨before', cs', hspelled⟩ := h.arg arg (Option.mem_toList.mp harg)
    exact hspelled.known

theorem FilterExpr.Spelled.known {e : FilterExpr} (h : e.Spelled source before cs) :
    ∀ x ∈ e.positions, Known x := by
  have hfilters := h.of_mem_filters
  obtain ⟨base, calls, hbase, -, -⟩ := h
  refine List.forall_mem_cons.mpr ⟨hbase.known, fun x hx => ?_⟩
  obtain ⟨call, hcall, hx⟩ := List.mem_flatMap.mp hx
  obtain ⟨before', cs', hspelled⟩ := hfilters call hcall
  exact hspelled.known x hx

/-- **What is laid out on characters of a source stands at known positions**, with all its parts. -/
theorem Node.Spelled.known {n : Node} (h : n.Spelled source before cs) :
    ∀ x ∈ n.positions, Known x := by
  refine List.forall_mem_cons.mpr ⟨?_, fun x hx => ?_⟩
  · rw [h.pos]
    exact known_behind source before
  rcases List.mem_append.mp hx with hx | hx
  · obtain ⟨e, he, hx⟩ := List.mem_flatMap.mp hx
    obtain ⟨before', cs', hspelled⟩ := h.of_mem_exprs e he
    exact hspelled.known x hx
  · obtain ⟨call, hcall, hx⟩ := List.mem_flatMap.mp hx
    obtain ⟨before', cs', hspelled⟩ := h.of_block? call (Option.mem_toList.mp hcall)
    exact hspelled.known x hx

end Layouts

/-- **The positions of a parsed template are known**: those of its nodes, calls and operands. -/
theorem Template.known_of_parse {source : String} {t : Template}
    (h : Template.parse source = .ok t) : ∀ x ∈ t.positions, Known x := by
  intro x hx
  obtain ⟨n, hn, hx⟩ := List.mem_flatMap.mp hx
  obtain ⟨before, cs, hspelled⟩ := Template.spelled_of_mem_nodes h hn
  exact hspelled.known x hx

end Stencil
