import Stencil.Proofs.Program.Faithful

/-!
# Calls of filters, in order and once each

A rendering notes every call of a filter: which filter, with which value and which argument. A
program makes the calls that its template makes, in the same order and each of them once, also where
the rendering fails half-way. The one exception is the liberty of the compiler: if the literal of a
first filter `default` serves as a fallback, that filter is called with the literal where the tree
calls it with an absent value.

Which calls these are is told by `Template.renderStandIn`: in a value that is written out, and there
only, the stand-in of the expression serves for its variable if that is missing. With stand-ins the
calls agree exactly, whatever filter goes by the name `default`.

## Main definitions

* `Template.Supplies t c d`: the calls `c` and `d` are the same, or `c` hands the stand-in of an
  output to `default` where `d` hands it an absent value

## Main results

* `RenderM.Simulates.eq`: steps that simulate each other down to the calls are the same step
* `Template.execute_eq_renderStandIn`: a program with fallbacks is executed as its template is
  rendered with stand-ins
* `calls_execute`: the calls of a program, with and without fallbacks
-/

namespace Stencil

open RenderM (Simulates)

variable {α : Type}

/-! ## Steps that agree down to the calls -/

theorem Run.Matches.eq {s t : Run} (h : s.Matches True Eq t) : s = t := by
  obtain ⟨calls, cancelled, rfl, hcancelled, hcalls⟩ := h.exists_eq
  rw [List.forall₂_eq_eq_eq] at hcalls
  rw [← hcalls, ← hcancelled trivial]

/-- Steps that simulate each other down to the calls are the same step. -/
theorem RenderM.Simulates.eq {x y : RenderM α} (h : Simulates (Run.Matches True Eq) x y) :
    x = y := by
  funext s
  obtain ⟨hres, hrun⟩ := h s s (.refl (fun _ => rfl) s)
  exact Prod.ext hres hrun.eq

theorem RenderM.Simulates.of_eq {x y : RenderM α} (h : x = y) :
    Simulates (Run.Matches True Eq) x y := by
  intro s t hst
  rw [h, hst.eq]
  exact ⟨rfl, .refl (fun _ => rfl) _⟩

/-! ## Programs and their templates -/

section Compiled

variable {t : Template} {r : Registry} {c : CompileOptions} {name : Option String} {p : Program}

/-- A program without fallbacks is executed as its template is rendered, down to the calls. -/
theorem Template.execute_eq_of_no_fallback (hkeys : t.KeysDistinct)
    (hcompile : t.compile r c name = .ok p) (hoff : c.defaultAsFallback = false) (o : Options) :
    p.execute o = t.render r o := by
  have hev (e : FilterExpr) : c.evalOutput r e = e.eval r := by
    rw [CompileOptions.evalOutput, hoff, if_neg Bool.false_ne_true]
  have hsim := Template.simulates_execute hkeys hcompile (fun _ => rfl) (fun e _ => .of_eq (hev e))
    o fun _ => trivial
  rw [Node.renderAllWith_eval] at hsim
  exact hsim.eq

/-- **A program with fallbacks is executed as its template is rendered with stand-ins**, down to the
calls, and for every filter that goes by the name `default`. -/
theorem Template.execute_eq_renderStandIn (hkeys : t.KeysDistinct)
    (hcompile : t.compile r c name = .ok p) (hon : c.defaultAsFallback = true) (o : Options) :
    p.execute o = t.renderStandIn r o := by
  have hev (e : FilterExpr) : c.evalOutput r e = e.evalStandIn r := by
    rw [CompileOptions.evalOutput, if_pos hon]
  exact (Template.simulates_execute hkeys hcompile (fun _ => rfl) (fun e _ => .of_eq (hev e)) o
    fun _ => trivial).eq

end Compiled

/-! ## Calls that differ -/

/-- The calls are the same, or they are calls of `default` by an output of the template with a
stand-in, which is the argument of both; `c` has it as its value too, where `d` has none. -/
def Template.Supplies (t : Template) (c d : Call) : Prop :=
  c = d ∨ ∃ e ∈ t.outputs, ∃ v, e.standIn? = some v ∧
    c = ⟨"default", v, some v⟩ ∧ d = ⟨"default", .nothing, some v⟩

/-- **A program calls the filters that its template calls, in the same order and each once**, from
every run and with all options, whether the rendering succeeds or fails.

Without fallbacks the calls are equal. With fallbacks, and the standard filter `default`, they are
exactly the calls of a rendering in which the stand-ins of outputs serve for missing variables; and
one by one they are the calls of the template, but for calls of `default` by such an output, which
have the stand-in as their value in place of an absent one. -/
theorem calls_execute {t : Template} {r : Registry} {c : CompileOptions} {name : Option String}
    {p : Program} (hkeys : t.KeysDistinct) (hcompile : t.compile r c name = .ok p) (o : Options)
    (s : Run) :
    (c.defaultAsFallback = false → (p.execute o s).2.calls = (t.render r o s).2.calls) ∧
      (c.defaultAsFallback = true → r.get? "default" = some .default →
        (p.execute o s).2.calls = (t.renderStandIn r o s).2.calls ∧
          List.Forall₂ t.Supplies (p.execute o s).2.calls (t.render r o s).2.calls) := by
  constructor
  · intro hoff
    rw [Template.execute_eq_of_no_fallback hkeys hcompile hoff]
  · intro hon hdefault
    refine ⟨by rw [Template.execute_eq_renderStandIn hkeys hcompile hon], ?_⟩
    have hrefl (d : Call) : t.Supplies d d := .inl rfl
    have hev : ∀ e ∈ t.outputs,
        Simulates (Run.Matches True t.Supplies) (c.evalOutput r e) (e.eval r) := by
      intro e he
      refine CompileOptions.simulates_evalOutput hrefl r fun _ v hv => ?_
      have htrue : v.isTruthy = true := (FilterExpr.standIn?_eq_some hv).1
      exact ⟨fun f hf => .of_eq (Registry.keepsFallbackAt_of_get? hdefault htrue f hf),
        .inr ⟨e, he, v, hv, rfl, rfl⟩⟩
    have hsim := Template.simulates_execute hkeys hcompile hrefl hev o fun _ => trivial
    rw [Node.renderAllWith_eval] at hsim
    exact (hsim s s (.refl hrefl s)).2.calls

/-- Two outputs, of which the second fails for want of its argument: the program has called
`default` with the literal, the tree with an absent value, and both went on to `upper` with what
that gave. -/
theorem calls_execute_chain :
    let t : Template := [
      .output ⟨⟨.variable ⟨"x", []⟩, none⟩,
        [⟨"default", some ⟨.literal (.string "a"), none⟩, none⟩, ⟨"upper", none, none⟩]⟩ none,
      .output ⟨⟨.variable ⟨"y", ["0"]⟩, none⟩,
        [⟨"default", some ⟨.variable ⟨"z", []⟩, none⟩, none⟩]⟩ none]
    t.KeysDistinct ∧ Registry.standard.get? "default" = some .default ∧
      ∃ p, t.compile .standard {} none = .ok p ∧
        (p.execute {} {}).2.calls =
          [⟨"upper", .string "a", none⟩, ⟨"default", .string "a", some (.string "a")⟩] ∧
        (t.render .standard {} {}).2.calls =
          [⟨"upper", .string "a", none⟩, ⟨"default", .nothing, some (.string "a")⟩] ∧
        (p.execute {} {}).2.calls = (t.renderStandIn .standard {} {}).2.calls ∧
        List.Forall₂ t.Supplies (p.execute {} {}).2.calls
          (t.render .standard {} {}).2.calls := by
  intro t
  have hkeys : t.KeysDistinct := by decide +kernel
  refine ⟨hkeys, Registry.get?_default_standard, _, rfl, rfl, rfl, ?_⟩
  exact (calls_execute hkeys rfl {} {}).2 rfl Registry.get?_default_standard

end Stencil
