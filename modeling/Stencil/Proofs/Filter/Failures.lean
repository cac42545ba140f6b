import Stencil.Proofs.Filter.Markup
import Stencil.Proofs.Text.Fields

/-!
# Standard filters that fail

Of the standard filters only `yesno` ever answers with an error, and only if it is given an argument
whose text has no comma in it, so that there are no two choices. The error has no position of its
own.

## Main definitions

* `Filter.tooFewChoices`: the error of `yesno`

## Main results

* `Registry.eq_yesno_of_error`: the error of a standard filter
-/

namespace Stencil

/-- The error of `yesno` for want of a second choice. -/
def Filter.tooFewChoices : RenderError :=
  { fault := .filterArgument "yesno" "needs at least two comma-separated choices" }

/-- The filter `yesno` fails only with an argument that has no comma in its text. -/
theorem Filter.yesno_eq_error {v : Value} {arg : Option Value} {e : RenderError}
    (h : (Filter.yesno.apply v arg).result = .error e) :
    e = tooFewChoices ∧ ∃ a, arg = some a ∧ ',' ∉ a.text.toList := by
  simp only [Filter.yesno, Filter.fallible] at h
  split at h
  · split at h <;> cases h
  · next hfields =>
    refine ⟨(Except.error.inj h).symm, ?_⟩
    cases arg with
    | none => exact absurd rfl (hfields "yes" "no" ["maybe"])
    | some a =>
      refine ⟨a, rfl, ?_⟩
      -- There is one field at least, and with another one there would be two choices.
      cases hcut : Text.cut ',' a.text.toList with
      | nil => exact absurd hcut (Text.cut_ne_nil _ _)
      | cons piece pieces =>
        cases pieces with
        | nil => exact Text.not_mem_of_cut_eq_singleton hcut
        | cons second rest =>
          refine absurd ?_ (hfields (.ofList piece) (.ofList second) (rest.map .ofList))
          rw [Option.map_some, Option.getD_some, Text.fields, hcut]
          rfl

/-- **The only standard filter that fails is `yesno`**, with an argument that has no comma in its
text. -/
theorem Registry.eq_yesno_of_error {name : String} {f : Filter} {v : Value} {arg : Option Value}
    {e : RenderError} (hget : Registry.standard.get? name = some f)
    (he : (f.apply v arg).result = .error e) :
    name = "yesno" ∧ e = Filter.tooFewChoices ∧ ∃ a, arg = some a ∧ ',' ∉ a.text.toList := by
  have hmem := Registry.mem_standard_of_get? hget
  have hname := Registry.name_of_get? hget
  simp only [Filter.standard, List.mem_cons, List.not_mem_nil, or_false] at hmem
  rcases hmem with rfl | rfl | rfl | rfl | rfl | rfl | rfl | rfl | rfl | rfl | rfl
  -- All but the last one have an answer to everything.
  any_goals cases he
  exact ⟨hname.symm, Filter.yesno_eq_error he⟩

end Stencil
