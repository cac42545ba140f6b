import Stencil.Filter.Gallery
import Stencil.Proofs.Program.Calls

/-!
# What can be seen of fallbacks

Whether literals of the filter `default` serve as fallbacks is an option of the compiler. It has no
say in what compiles: with and without it the same paths and filters are entered, or the same error
is met. Nor can it be seen in a rendering, as long as the filter `default` answers for each stand-in
of the template as it does for an absent value. The standard filter does. A filter that a host puts
in its place may not, and then the two programs write different texts.

## Main definitions

* `CompileM.Agrees x y`: two parts of a compilation fill the tables alike, or fail alike
* `Template.KeepsStandIns t r`: the filter `default` answers for the stand-ins of `t` as for an
  absent value

## Main results

* `Template.compile_agrees`: the options have no say in what compiles
* `execute_eq_execute_of_keepsStandIns`: programs with and without fallbacks render alike
* `fallback_seen_of_replaced_default`: they need not if `default` is replaced
-/

namespace Stencil

open RenderM (Simulates)

variable {α β γ δ : Type}

/-! ## Compiling with other options -/

/-- The two parts of a compilation leave the same tables, or fail with the same error. -/
def CompileM.Agrees (x : CompileM α) (y : CompileM β) : Prop :=
  ∀ t, (x t).map Prod.snd = (y t).map Prod.snd

namespace CompileM.Agrees

theorem refl (x : CompileM α) : Agrees x x :=
  fun _ => rfl

theorem pure (a : α) (b : β) : Agrees (Pure.pure a) (Pure.pure b) :=
  fun _ => rfl

/-- Parts that agree may be followed by parts that agree whatever they are given. -/
theorem bind {x : CompileM α} {y : CompileM β} {f : α → CompileM γ} {g : β → CompileM δ}
    (hxy : Agrees x y) (hfg : ∀ a b, Agrees (f a) (g b)) : Agrees (x >>= f) (y >>= g) := by
  intro t
  have h := hxy t
  simp only [Bind.bind]
  revert h
  rcases x t with e | ⟨a, u⟩ <;> rcases y t with e' | ⟨b, u'⟩ <;> intro h
  · exact congrArg _ (Except.error.inj h)
  · cases h
  · cases h
  · obtain rfl : u = u' := Except.ok.inj h
    exact hfg a b u

/-- The same part may be followed by parts that agree on what it gives. -/
theorem bind_same (x : CompileM α) {f : α → CompileM γ} {g : α → CompileM δ}
    (hfg : ∀ a, Agrees (f a) (g a)) : Agrees (x >>= f) (x >>= g) := by
  intro t
  simp only [Bind.bind]
  rcases x t with e | ⟨a, u⟩
  · rfl
  · exact hfg a u

end CompileM.Agrees

open CompileM (Agrees)

/-- A path is entered however the variable is looked up. -/
theorem Operand.agrees_compile (m n : Resolution) (x : Operand) :
    Agrees (x.compile m) (x.compile n) := by
  rcases x with ⟨v | p, pos⟩
  · exact .pure _ _
  · refine .bind (fun t => ?_) fun _ _ => .pure _ _
    rw [CompileM.enter, CompileM.enter, Tables.resolve_eq, Tables.resolve_eq]
    rfl

section Options

variable (r : Registry)

theorem FilterCall.agrees_compileAll (calls : List FilterCall) (input other : Expr) :
    Agrees (FilterCall.compileAll r calls input) (FilterCall.compileAll r calls other) := by
  induction calls generalizing input other with
  | nil => exact .pure _ _
  | cons call rest ih =>
    refine .bind ?_ ih
    exact .bind_same _ fun f => .bind_same _ fun handle => .bind_same _ fun arg => .pure _ _

theorem FilterExpr.agrees_compile (m n : Resolution) (e : FilterExpr) :
    Agrees (e.compile r m) (e.compile r n) :=
  .bind (e.base.agrees_compile m n) (FilterCall.agrees_compileAll r e.filters)

variable (c d : CompileOptions)

mutual

theorem Node.agrees_compile (n : Node) : Agrees (n.compile r c) (n.compile r d) := by
  match n with
  | .text content pos => exact .refl _
  | .comment pos => exact .refl _
  | .output expr pos =>
    -- Here alone the options are asked, and only for the mode of the lookup.
    exact .bind (expr.agrees_compile r _ _) fun _ _ => .pure _ _
  | .conditional branches pos =>
    exact .bind (Branches.agrees_compile branches) fun _ _ => .pure _ _
  | .loop binding iterable body empty pos =>
    refine .bind_same _ fun e => .bind (Node.agrees_compileAll body) fun _ _ => ?_
    exact .bind (Node.agrees_compileOpt empty) fun _ _ => .pure _ _
  | .filtered call body pos => exact .refl _

theorem Node.agrees_compileAll (ns : List Node) :
    Agrees (Node.compileAll r c ns) (Node.compileAll r d ns) := by
  match ns with
  | [] => exact .refl _
  | n :: rest =>
    refine .bind (Node.agrees_compile n) fun _ _ => ?_
    exact .bind (Node.agrees_compileAll rest) fun _ _ => .pure _ _

theorem Node.agrees_compileOpt (ns : Option (List Node)) :
    Agrees (Node.compileOpt r c ns) (Node.compileOpt r d ns) := by
  match ns with
  | none => exact .refl _
  | some body => exact Node.agrees_compileAll body

theorem Branches.agrees_compile (b : Branches) : Agrees (b.compile r c) (b.compile r d) := by
  match b with
  | .none => exact .refl _
  | .otherwise body => exact .bind (Node.agrees_compileAll body) fun _ _ => .pure _ _
  | .when test body rest =>
    refine .bind_same _ fun e => .bind (Node.agrees_compileAll body) fun _ _ => ?_
    exact .bind (Branches.agrees_compile rest) fun _ _ => .pure _ _

end

/-- **The options have no say in what compiles**: a template compiles with all of them, to programs
with the same tables, or fails to with the same error. -/
theorem Template.compile_agrees (t : Template) (name : Option String) :
    (∃ e, t.compile r c name = .error e ∧ t.compile r d name = .error e) ∨
      ∃ p q, t.compile r c name = .ok p ∧ t.compile r d name = .ok q ∧ p.tables = q.tables := by
  have h := Node.agrees_compileAll r c d t {}
  rcases hc : Node.compileAll r c t {} with e | ⟨body, u⟩ <;>
    rcases hd : Node.compileAll r d t {} with e' | ⟨body', u'⟩ <;> rw [hc, hd] at h
  · obtain rfl : e = e' := Except.error.inj h
    exact .inl ⟨e, Template.compile_eq_error_iff.mpr hc, Template.compile_eq_error_iff.mpr hd⟩
  · cases h
  · cases h
  · refine .inr ⟨⟨name, body, u⟩, ⟨name, body', u'⟩, ?_, ?_, Except.ok.inj h⟩
    · exact Template.compile_eq_ok_iff.mpr ⟨rfl, hc⟩
    · exact Template.compile_eq_ok_iff.mpr ⟨rfl, hd⟩

end Options

/-! ## Rendering with and without fallbacks -/

/-- The filter `default`, if there is one, answers for each stand-in of an output of the template as
it does for an absent value. -/
def Template.KeepsStandIns (t : Template) (r : Registry) : Prop :=
  ∀ e ∈ t.outputs, ∀ v, e.standIn? = some v → r.KeepsFallbackAt v

theorem Template.keepsStandIns_of_get? {r : Registry} (h : r.get? "default" = some .default)
    (t : Template) : t.KeepsStandIns r :=
  fun _ _ _ hv => Registry.keepsFallbackAt_of_get? h (FilterExpr.standIn?_eq_some hv).1

/-- A program simulates its template if stand-ins are kept, whatever the options. -/
theorem Template.KeepsStandIns.simulates {t : Template} {r : Registry} {c : CompileOptions}
    {name : Option String} {p : Program} (hkeep : t.KeepsStandIns r) (hkeys : t.KeysDistinct)
    (hcompile : t.compile r c name = .ok p) (o : Options) :
    Simulates (Run.Matches True fun _ _ => True) (p.execute o) (t.render r o) := by
  have hsim := Template.simulates_execute hkeys hcompile (C := fun _ _ => True) (fun _ => trivial)
    (fun e he => CompileOptions.simulates_evalOutput (fun _ => trivial) r
      fun _ v hv => ⟨fun f hf => .of_eq (hkeep e he v hv f hf), trivial⟩) o fun _ => trivial
  rwa [Node.renderAllWith_eval] at hsim

/-- **Fallbacks cannot be seen if stand-ins are kept**: with and without them a template fails to
compile with the same error, or compiles to programs that render alike, from every run and with all
options of rendering. -/
theorem execute_eq_execute_of_keepsStandIns {t : Template} {r : Registry}
    (hkeys : t.KeysDistinct) (hkeep : t.KeepsStandIns r) (c : CompileOptions)
    (name : Option String) :
    let on : CompileOptions := { c with defaultAsFallback := true }
    let off : CompileOptions := { c with defaultAsFallback := false }
    (∃ e, t.compile r on name = .error e ∧ t.compile r off name = .error e) ∨
      ∃ p q, t.compile r on name = .ok p ∧ t.compile r off name = .ok q ∧
        ∀ o s, (p.execute o s).1 = (q.execute o s).1 ∧
          (p.execute o s).2.output = (q.execute o s).2.output ∧
          (p.execute o s).2.evaluations = (q.execute o s).2.evaluations ∧
          (p.execute o s).2.iterations = (q.execute o s).2.iterations ∧
          (p.execute o s).2.cancelled = (q.execute o s).2.cancelled ∧
          (p.execute o s).2.context = (q.execute o s).2.context := by
  intro on off
  rcases Template.compile_agrees r on off t name with hfail | ⟨p, q, hp, hq, -⟩
  · exact .inl hfail
  · refine .inr ⟨p, q, hp, hq, fun o s => ?_⟩
    -- Both programs do what the template does.
    have hs : s.Matches True (fun _ _ => True) s := .refl (fun _ => trivial) s
    obtain ⟨hp₁, hp₂⟩ := hkeep.simulates hkeys hp o s s hs
    obtain ⟨hq₁, hq₂⟩ := hkeep.simulates hkeys hq o s s hs
    exact ⟨hp₁.trans hq₁.symm, hp₂.output.trans hq₂.output.symm,
      hp₂.evaluations.trans hq₂.evaluations.symm, hp₂.iterations.trans hq₂.iterations.symm,
      (hp₂.cancelled trivial).trans (hq₂.cancelled trivial).symm,
      hp₂.context.trans hq₂.context.symm⟩

/-- A variable that is missing, with a chain of filters behind its stand-in, and a last output that
fails for want of its argument: both programs wrote the same before they met the same error. -/
theorem execute_eq_execute_chain :
    let t : Template := [
      .output ⟨⟨.variable ⟨"x", []⟩, none⟩,
        [⟨"default", some ⟨.literal (.string "a"), none⟩, none⟩, ⟨"upper", none, none⟩]⟩ none,
      .output ⟨⟨.variable ⟨"y", ["0"]⟩, none⟩,
        [⟨"default", some ⟨.variable ⟨"z", []⟩, none⟩, none⟩]⟩ none]
    t.KeysDistinct ∧ t.KeepsStandIns .standard ∧
      ∃ p q, t.compile .standard { defaultAsFallback := true } none = .ok p ∧
        t.compile .standard { defaultAsFallback := false } none = .ok q ∧
        (p.execute {} {}).1 = .error { fault := .missingVariable "z", pos := some .unknown } ∧
        (p.execute {} {}).2.output = "A" ∧
        ∀ o s, (p.execute o s).1 = (q.execute o s).1 ∧
          (p.execute o s).2.output = (q.execute o s).2.output := by
  intro t
  have hkeys : t.KeysDistinct := by decide +kernel
  have hkeep : t.KeepsStandIns .standard := t.keepsStandIns_of_get? Registry.get?_default_standard
  refine ⟨hkeys, hkeep, ?_⟩
  rcases execute_eq_execute_of_keepsStandIns hkeys hkeep {} none with
    ⟨e, herror, -⟩ | ⟨p, q, hp, hq, hpq⟩
  · cases herror
  · refine ⟨p, q, hp, hq, ?_, ?_, fun o s => ⟨(hpq o s).1, (hpq o s).2.1⟩⟩ <;>
    · obtain rfl := Except.ok.inj hp
      decide +kernel

/-- **Fallbacks are seen if a replaced `default` tells a literal from an absent value**: here it
writes the kind of its value, which is the kind of the literal with a fallback and `none` without
one. -/
theorem fallback_seen_of_replaced_default :
    let t : Template := [.output ⟨⟨.variable ⟨"x", []⟩, none⟩,
      [⟨"default", some ⟨.literal (.string "N/A"), none⟩, none⟩]⟩ none]
    let r : Registry := Registry.standard.registerAll Filter.Gallery.replacing
    t.KeysDistinct ∧
      ∃ p q, t.compile r { defaultAsFallback := true } none = .ok p ∧
        t.compile r { defaultAsFallback := false } none = .ok q ∧
        (p.execute {} {}).2.output = "string&lt;N/A&gt;/N/A" ∧
        (q.execute {} {}).2.output = "none&lt;&gt;/N/A" := by
  intro t r
  exact ⟨by decide +kernel, _, _, rfl, rfl, by decide +kernel, by decide +kernel⟩

end Stencil
