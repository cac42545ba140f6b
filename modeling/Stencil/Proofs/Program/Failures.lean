import Stencil.Proofs.Filter.Failures
import Stencil.Proofs.Program.Merging
import Stencil.Proofs.Render.Failures
import Stencil.Proofs.Template.Positions

/-!
# Errors point into the template

A program fails with what goes wrong at a node of its template, just as the template itself does. So
an error has a position, however it came about and whichever way the template was run: the position
of a node, of a call or of an operand, unless the filter that raised the error gave it one before. A
template that was read from a source has positions throughout, and then so has every error.

Nothing is assumed of the variables of the template. Two variables with the same key share a handle,
and a program may then look up the wrong one; but the error for it has the key in it, and its
position comes from the operand.

## Main definitions

* `Template.Outcome`: what a run of a template can come to, as a tree or as a program
* `Registry.SetsNoPositions`: filters leave the positions of their errors to the renderer

## Main results

* `Template.failsFrom_render`, `Template.failsFrom_execute`: trees and programs fail with what goes
  wrong at a node, with the variables that it finds
* `Registry.setsNoPositions_standard`: standard filters leave positions alone
* `Template.Outcome.pos_of_error`: the position of an error
-/

namespace Stencil

open RenderM (EndsIn)

/-! ## Trees and programs -/

section Runs

variable {t : Template} {r : Registry} {o : Options} {s : Run} {e : RenderError}

/-- However outputs are evaluated: if they fail at their calls only, what fails is a node that the
rendering comes to. -/
theorem Template.failsFrom_renderAllWith {look : Path → Path} (hlook : ∀ p, (look p).key = p.key)
    {ev : FilterExpr → RenderM Value}
    (hev : ∀ c expr, EndsIn c (FilterExpr.FailsIn r look c expr) (ev (expr.rename look)))
    (he : (Node.renderAllWith ev r o (t.rename look) s).1 = .error e) :
    t.FailsFrom r o look s.context (Node.renderAllWith ev r o (t.rename look) s).2.calls e := by
  have hend := Node.endsIn_renderAll o hlook hev t (fun _ hn => .top hn) s rfl
  rw [Template.rename] at he ⊢
  rcases hrun : Node.renderAllWith ev r o (Node.renameAll look t) s with ⟨result, u⟩
  rw [hrun] at he hend
  obtain rfl : result = .error e := he
  exact hend

/-- A tree fails with what goes wrong at one of its nodes. -/
theorem Template.failsFrom_render (he : (t.render r o s).1 = .error e) :
    t.FailsFrom r o id s.context (t.render r o s).2.calls e := by
  have hlook (p : Path) : (id p).key = p.key := rfl
  have hrender : t.render r o = Node.renderAllWith (FilterExpr.eval r) r o (t.rename id) := by
    rw [Node.renderAllWith_eval, Template.rename, Node.renameAll_id, Template.render]
  rw [hrender] at he ⊢
  exact Template.failsFrom_renderAllWith hlook (fun c expr => expr.endsIn_eval r hlook c) he

/-- **A program fails with what goes wrong at a node of its template**, where the first variable
with its key is looked up for each variable. -/
theorem Template.failsFrom_execute {c : CompileOptions} {name : Option String} {p : Program}
    (hcompile : t.compile r c name = .ok p) (he : (p.execute o s).1 = .error e) :
    t.FailsFrom r o t.leader s.context (p.execute o s).2.calls e := by
  have hlook (p : Path) : (t.leader p).key = p.key := Path.key_leader t.paths p
  rw [Template.execute_eq_renderAllWith hcompile] at he ⊢
  refine Template.failsFrom_renderAllWith hlook (fun c' expr => ?_) he
  rw [CompileOptions.evalOutput]
  split
  · exact expr.endsIn_evalOr r hlook c' _
  · exact expr.endsIn_eval r hlook c'

end Runs

/-! ## Templates -/

/-- What a run of a template can come to: it is rendered as a tree, or as a program that was
compiled from it. -/
inductive Template.Outcome (t : Template) (r : Registry) (o : Options) (s : Run) :
    Except RenderError Unit × Run → Prop
  | tree : Outcome t r o s (t.render r o s)
  | program {c : CompileOptions} {name : Option String} {p : Program}
      (hcompile : t.compile r c name = .ok p) : Outcome t r o s (p.execute o s)

/-- The filters of the registry put no positions on their errors. -/
def Registry.SetsNoPositions (r : Registry) : Prop :=
  ∀ name f, r.get? name = some f → ∀ v arg e, (f.apply v arg).result = .error e → e.pos = none

theorem Registry.setsNoPositions_standard : Registry.standard.SetsNoPositions := by
  intro name f hget v arg e he
  obtain ⟨-, rfl, -⟩ := Registry.eq_yesno_of_error hget he
  rfl

/-- The error of a run is one of a node of the template. -/
theorem Template.Outcome.failsAmong {t : Template} {r : Registry} {o : Options} {s : Run}
    {out : Except RenderError Unit × Run} (hout : t.Outcome r o s out) {e : RenderError}
    (he : out.1 = .error e) : Node.FailsAmong r o t.nodes out.2.calls e := by
  cases hout with
  | tree =>
    obtain ⟨n, c, hn, hfails⟩ := Template.failsFrom_render he
    exact ⟨n, hn.mem_nodes, _, c, hfails⟩
  | program hcompile =>
    obtain ⟨n, c, hn, hfails⟩ := Template.failsFrom_execute hcompile he
    exact ⟨n, hn.mem_nodes, _, c, hfails⟩

/-- **Every error points into the template**, whether it was rendered as a tree or as a program: it
has the position of a node, of a call or of an operand of the template, where one without a position
counts as at the unknown position; unless the filter that was called last had put another one on the
error. So errors of a parsed template are never at the unknown position, if filters leave positions
alone. -/
theorem Template.Outcome.pos_of_error {t : Template} {r : Registry} {o : Options} {s : Run}
    {out : Except RenderError Unit × Run} (hout : t.Outcome r o s out) {e : RenderError}
    (he : out.1 = .error e) :
    ∃ p, e.pos = some p ∧
      (r.Raises out.2.calls e ∨ ∃ x ∈ t.positions, p = x.getD .unknown) ∧
      ∀ source, Template.parse source = .ok t → r.SetsNoPositions → p ≠ .unknown := by
  obtain ⟨n, hn, hfails⟩ := hout.failsAmong he
  obtain ⟨p, hp, hcause⟩ := hfails.pos
  have hwhere : r.Raises out.2.calls e ∨ ∃ x ∈ t.positions, p = x.getD .unknown := by
    refine hcause.imp id ?_
    rintro ⟨x, hx, hpx⟩
    exact ⟨x, List.mem_flatMap.mpr ⟨n, hn, hx⟩, hpx⟩
  refine ⟨p, hp, hwhere, fun source hparse hnone => ?_⟩
  rcases hwhere with ⟨call, f, -, hget, hresult⟩ | ⟨x, hx, rfl⟩
  · -- The filter would have had to set the position itself.
    rw [hnone call.name f hget _ _ e hresult] at hp
    cases hp
  · exact (Template.known_of_parse hparse x hx).getD_ne_unknown

/-- A filter in the body of a loop lacks the variable of its argument: the error is at that argument
in the second line, in the tree and in the program. -/
theorem Template.Outcome.pos_of_error_argument :
    let source := "a\n\x7b% for x in v %\x7d\x7b\x7b x|join:y \x7d\x7d\x7b% endfor %\x7d"
    let s : Run := { context := Context.empty.set "v" (.array [.string "b"]) }
    let e : RenderError := { fault := .missingVariable "y", pos := some ⟨2, 27⟩ }
    ∃ t p, Template.parse source = .ok t ∧ t.compile .standard {} none = .ok p ∧
      ∀ out, out = t.render .standard {} s ∨ out = p.execute {} s → out.1 = .error e ∧
        ∃ q, e.pos = some q ∧
          (Registry.standard.Raises out.2.calls e ∨ ∃ x ∈ t.positions, q = x.getD .unknown) ∧
          Registry.standard.SetsNoPositions ∧ q ≠ .unknown := by
  intro source s e
  have hruns : (Template.parse source).toOption.bind (fun t =>
      (t.compile .standard {} none).toOption.map fun p =>
        ((t.render .standard {} s).1, (p.execute {} s).1)) = some (.error e, .error e) := by
    decide +kernel
  -- Only what was computed above is used of the source, so that it is not parsed again.
  generalize source = source at hruns ⊢
  cases hparse : Template.parse source with
  | error _ =>
    rw [hparse] at hruns
    cases hruns
  | ok t =>
    rw [hparse] at hruns
    change (t.compile .standard {} none).toOption.map (fun p =>
      ((t.render .standard {} s).1, (p.execute {} s).1)) = some (.error e, .error e) at hruns
    cases hcompile : t.compile .standard {} none with
    | error _ =>
      rw [hcompile] at hruns
      cases hruns
    | ok p =>
      rw [hcompile] at hruns
      obtain ⟨htree, hprogram⟩ := Prod.mk.inj (Option.some.inj hruns)
      refine ⟨t, p, rfl, hcompile, ?_⟩
      have hnone := Registry.setsNoPositions_standard
      rintro out (rfl | rfl)
      · obtain ⟨q, hq, hwhere, hknown⟩ := Template.Outcome.pos_of_error .tree htree
        exact ⟨htree, q, hq, hwhere, hnone, hknown source hparse hnone⟩
      · obtain ⟨q, hq, hwhere, hknown⟩ :=
          Template.Outcome.pos_of_error (.program hcompile) hprogram
        exact ⟨hprogram, q, hq, hwhere, hnone, hknown source hparse hnone⟩

end Stencil
