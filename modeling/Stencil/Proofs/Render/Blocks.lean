import Stencil.Proofs.Filter.Markup
import Stencil.Proofs.Render.Frames
import Stencil.Proofs.Render.Pieces

/-!
# Markup in the output of blocks

A block sends what its body has written through a filter and writes the outcome as it is, for the
values in it have been escaped before. So with the standard filters, which make no markup, markup in
an escaped output comes from a text of the template, or from an argument of the filter of a block:
an argument goes into the outcome without ever having been escaped. Where the filters of blocks have
no arguments but literals without markup, escaping protects blocks as it does the rest.

## Main definitions

* `FilterCall.Brings call ch c`: `c` is a record of `call`, with the character in its argument
* `Template.Explains t ch s`: the character is in a text of the template, or was brought in by the
  argument of a block
* `Template.ExplainsIn t ch text s`: so is the character where it occurs in the text
* `RenderM.Ensures P x Q E`: from runs with `P`, the step ends in runs with `Q` or, if it fails, `E`
* `RenderM.Accounts t ch x`: the step leaves no character unexplained

## Main results

* `FilterCall.apply_eq_ok`: what a call does if it succeeds
* `RenderM.Accounts.filterOutput`: a block leaves no markup unexplained
* `markup_of_texts_and_block_arguments`: where markup in an escaped output comes from
* `block_argument_not_escaped`: a block with an argument that is not escaped
-/

namespace Stencil

open Text (isMarkup Clean)

variable {α β : Type}

/-! ## Calls -/

/-- The argument is the one that the call has: it is the literal, if that is what the call has. -/
def FilterCall.Passes (call : FilterCall) (arg : Option Value) : Prop :=
  ∀ v, arg = some v → ∃ x, call.arg = some x ∧ ∀ w, x.term = .literal w → v = w

/-- The arguments of calls are evaluated without any change to the run. -/
theorem FilterCall.evalArg_spec (call : FilterCall) (s : Run) :
    (call.evalArg s).2 = s ∧ ∀ arg, (call.evalArg s).1 = .ok arg → call.Passes arg := by
  rcases call with ⟨name, _ | ⟨v | p, pos⟩, callPos⟩
  · refine ⟨rfl, fun arg harg v hv => ?_⟩
    rw [← Except.ok.inj harg] at hv
    cases hv
  · refine ⟨rfl, fun arg harg a ha => ⟨_, rfl, fun w hw => ?_⟩⟩
    rw [← Except.ok.inj harg] at ha
    exact (Option.some.inj ha).symm.trans (Term.literal.inj hw)
  · refine ⟨?_, fun arg _ a _ => ⟨_, rfl, fun w hw => nomatch hw⟩⟩
    simp only [FilterCall.evalArg, Operand.evalStrict, RenderM.bind_apply, RenderM.located,
      RenderM.resolve]
    cases s.context.find? p <;> rfl

/-- **What a call does if it succeeds**: the filter of that name gives the value, with the argument
that the call has; the call is recorded, and nothing is written. -/
theorem FilterCall.apply_eq_ok {r : Registry} {call : FilterCall} {v w : Value} {s t : Run}
    (h : call.apply r v s = (.ok w, t)) :
    ∃ f arg, r.get? call.name = some f ∧ (f.apply v arg).result = .ok w ∧ call.Passes arg ∧
      t.output = s.output ∧ t.calls = ⟨call.name, v, arg⟩ :: s.calls := by
  obtain ⟨arg, u, harg, hlocated⟩ := RenderM.bind_eq_ok h
  obtain ⟨hstate, hpasses⟩ := call.evalArg_spec s
  rw [harg] at hstate hpasses
  obtain rfl : u = s := hstate
  have hcall := RenderM.located_eq_ok hlocated
  rw [Registry.call] at hcall
  cases hselect : r.select call.name arg.isSome with
  | error e =>
    rw [hselect] at hcall
    cases hcall
  | ok f =>
    rw [hselect] at hcall
    have hget := Registry.get?_of_select hselect
    obtain ⟨hresult, rfl⟩ := Prod.mk.inj hcall
    refine ⟨f, arg, hget, hresult, hpasses arg rfl, rfl, ?_⟩
    rw [← Registry.name_of_get? hget]

/-- The record `c` is one of the call, and the character is in the text of its argument. -/
def FilterCall.Brings (call : FilterCall) (ch : Char) (c : Call) : Prop :=
  c.name = call.name ∧ call.Passes c.arg ∧ ∃ v, c.arg = some v ∧ ch ∈ v.text.toList

/-- The character is in a text of the template, or in an argument that was passed to the filter of a
block of the template. -/
def Template.Explains (t : Template) (ch : Char) (s : Run) : Prop :=
  (∃ content ∈ t.texts, ch ∈ content.toList) ∨ ∃ call ∈ t.blocks, ∃ c ∈ s.calls, call.Brings ch c

/-- Where the character occurs in the text, it is explained. -/
def Template.ExplainsIn (t : Template) (ch : Char) (text : String) (s : Run) : Prop :=
  ch ∈ text.toList → t.Explains ch s

/-! ## Steps -/

/-- Begun in a run with the property `P`, the step gives a result and a run with the property `Q`;
if it fails, it ends in a run with the property `E`. -/
def RenderM.Ensures (P : Run → Prop) (x : RenderM α) (Q : α → Run → Prop) (E : Run → Prop) : Prop :=
  ∀ s, P s → match x s with
    | (.ok a, t) => Q a t
    | (.error _, t) => E t

namespace RenderM.Ensures

variable {P E : Run → Prop} {Q : α → Run → Prop} {S : β → Run → Prop}

theorem bind {x : RenderM α} {f : α → RenderM β} (hx : Ensures P x Q E)
    (hf : ∀ a, Ensures (Q a) (f a) S E) : Ensures P (x >>= f) S E := by
  intro s hs
  have ht := hx s hs
  rcases hxs : x s with ⟨e | a, t⟩
  · rw [hxs] at ht
    rw [bind_apply_error x f s hxs]
    exact ht
  · rw [hxs] at ht
    rw [bind_apply_ok x f s hxs]
    exact hf a t ht

/-- A property that a step ensures in any case is preserved by it. -/
theorem preserves {x : RenderM α} (hx : Ensures P x (fun _ => P) P) : Preserves P x := by
  intro s hs
  have ht := hx s hs
  rcases hxs : x s with ⟨e | a, t⟩ <;> rwa [hxs] at ht

end RenderM.Ensures

/-- The step leaves no occurrence of the character in the output unexplained, and what was explained
stays so. -/
structure RenderM.Accounts (t : Template) (ch : Char) (x : RenderM α) : Prop where
  explained : Preserves (t.Explains ch) x
  output : Preserves (fun s => t.ExplainsIn ch s.output s) x

namespace RenderM.Accounts

variable {t : Template} {ch : Char}

/-- A step that writes nothing and forgets no call leaves nothing unexplained. -/
theorem of_output_eq {x : RenderM α} (houtput : ∀ s, (x s).2.output = s.output)
    (hcalls : ∀ s, ∀ c ∈ s.calls, c ∈ (x s).2.calls) : Accounts t ch x := by
  have hexplained : Preserves (t.Explains ch) x := by
    rintro s (htext | ⟨call, hcall, c, hc, hbrings⟩)
    · exact .inl htext
    · exact .inr ⟨call, hcall, c, hcalls s c hc, hbrings⟩
  refine ⟨hexplained, fun s hs hmem => ?_⟩
  rw [houtput s] at hmem
  exact hexplained s (hs hmem)

theorem bind {x : RenderM α} {f : α → RenderM β} (hx : Accounts t ch x)
    (hf : ∀ a, Accounts t ch (f a)) : Accounts t ch (x >>= f) :=
  ⟨hx.explained.bind fun a => (hf a).explained, hx.output.bind fun a => (hf a).output⟩

/-- **Leaving nothing unexplained is kept by putting steps together.** -/
theorem congruence (o : Options) : Congruence o o fun x _ => Accounts t ch x := by
  have hcomposes : Composes fun x _ => Accounts t ch x := {
    pure := fun _ => of_output_eq (fun _ => rfl) fun _ _ hc => hc
    ofExcept := fun _ => of_output_eq (fun _ => rfl) fun _ _ hc => hc
    bind := bind
    located := fun pos hx => ⟨hx.explained.located pos, hx.output.located pos⟩ }
  refine { hcomposes with
    resolve := fun p => of_output_eq (fun s => ?_) fun s c hc => ?_
    resolveOr := fun _ _ => of_output_eq (fun _ => rfl) fun _ _ hc => hc
    call := fun _ _ _ => of_output_eq (fun _ => rfl) fun _ _ hc => List.mem_cons_of_mem _ hc
    tick := of_output_eq (fun _ => rfl) fun _ _ hc => hc
    forEach := hcomposes.forEach o o (of_output_eq (fun _ => rfl) fun _ _ hc => hc)
      (fun _ _ _ _ => of_output_eq (fun _ => rfl) fun _ _ hc => hc) ?_ }
  · rw [RenderM.resolve]
    split <;> rfl
  · rw [RenderM.resolve]
    split <;> exact hc
  · -- A frame changes neither the output nor the record of calls.
    exact fun x _ hx => ⟨fun s => hx.explained { s with context := s.context.push },
      fun s => hx.output { s with context := s.context.push }⟩

/-- Where the character is explained if it is in the text, the text may be written. -/
theorem ensures_append (text : String) :
    Ensures (fun s => t.ExplainsIn ch s.output s ∧ t.ExplainsIn ch text s) (RenderM.append text)
      (fun _ s => t.ExplainsIn ch s.output s) fun s => t.ExplainsIn ch s.output s := by
  rintro s ⟨houtput, htext⟩ hmem
  rcases List.mem_append.mp (String.toList_append ▸ hmem) with hmem | hmem
  · exact houtput hmem
  · exact htext hmem

theorem append {text : String} (htext : ∀ s, t.ExplainsIn ch text s) :
    Accounts t ch (RenderM.append text) where
  explained _ h := h
  output := fun s hs => ensures_append text s ⟨hs, htext s⟩

/-- What the body of a block has written is explained, and so is what was written before. -/
theorem ensures_captured {x : RenderM Unit} (hx : Accounts t ch x) :
    Ensures (fun s => t.ExplainsIn ch s.output s) (RenderM.captured x)
      (fun inner s => t.ExplainsIn ch s.output s ∧ t.ExplainsIn ch inner s)
      fun s => t.ExplainsIn ch s.output s := by
  intro s hs
  -- The body begins with an empty output, in which there is nothing to explain.
  have hbody := hx.output { s with output := "" } fun hmem => (List.not_mem_nil hmem).elim
  have hbefore := hx.explained { s with output := "" }
  rw [RenderM.captured_apply]
  rcases hxs : x { s with output := "" } with ⟨e | _, u⟩
  · rw [hxs] at hbefore
    exact fun hmem => hbefore (hs hmem)
  · rw [hxs] at hbefore hbody
    exact ⟨fun hmem => hbefore (hs hmem), hbody⟩

/-- What the filter of a block makes of an explained text is explained: markup in it comes from the
text, or else the argument brings it in. -/
theorem ensures_apply {r : Registry} {call : FilterCall} (hcall : call ∈ t.blocks)
    (hfilter : ∀ f, r.get? call.name = some f → f.MakesNoMarkup) (hch : isMarkup ch = true)
    (inner : String) :
    Ensures (fun s => t.ExplainsIn ch s.output s ∧ t.ExplainsIn ch inner s)
      (call.apply r (.string inner))
      (fun v s => t.ExplainsIn ch s.output s ∧ t.ExplainsIn ch v.text s)
      fun s => t.ExplainsIn ch s.output s := by
  rintro s ⟨houtput, hinner⟩
  have happly : Accounts t ch (call.apply r (.string inner)) :=
    call.related_apply (congruence {}) r (.string inner)
  have hafter := happly.output s houtput
  have hexplained := happly.explained s
  rcases hs : call.apply r (.string inner) s with ⟨e | v, u⟩
  · rw [hs] at hafter
    exact hafter
  · rw [hs] at hafter hexplained
    refine ⟨hafter, fun hmem => ?_⟩
    obtain ⟨f, arg, hget, hresult, hpasses, -, hcalls⟩ := FilterCall.apply_eq_ok hs
    rcases hfilter f hget inner arg v hresult ch hch hmem with hmem | ⟨a, ha, hmem⟩
    · exact hexplained (hinner hmem)
    · -- The call that has just been recorded is the explanation.
      have hrecord : ⟨call.name, .string inner, arg⟩ ∈ u.calls := by
        rw [hcalls]
        exact List.mem_cons_self
      exact .inr ⟨call, hcall, _, hrecord, rfl, hpasses, a, ha, hmem⟩

/-- **A block leaves no markup unexplained**, if its filter makes none. -/
theorem filterOutput {r : Registry} {call : FilterCall} (hcall : call ∈ t.blocks)
    (hfilter : ∀ f, r.get? call.name = some f → f.MakesNoMarkup) (hch : isMarkup ch = true)
    {x : RenderM Unit} (hx : Accounts t ch x) : Accounts t ch (call.filterOutput r x) where
  explained := by
    have hcaptured : Preserves (t.Explains ch) (RenderM.captured x) := by
      intro s hs
      have hbody := hx.explained { s with output := "" } hs
      rw [RenderM.captured_apply]
      rcases hxs : x { s with output := "" } with ⟨e | _, u⟩ <;> rwa [hxs] at hbody
    refine hcaptured.bind fun inner => .bind ?_ fun v => fun _ h => h
    exact (call.related_apply (congruence {}) r (.string inner)).explained
  -- From the body to the filter, and from the filter to the output of the run.
  output := (hx.ensures_captured.bind fun inner =>
    (ensures_apply hcall hfilter hch inner).bind fun v => ensures_append v.text).preserves

end RenderM.Accounts

open RenderM (Accounts)

/-! ## Templates -/

/-- A template leaves no markup unexplained when values are escaped and the filters of its blocks
make none. -/
theorem Template.accounts_render (t : Template) {r : Registry}
    (hfilters : ∀ call ∈ t.blocks, ∀ f, r.get? call.name = some f → f.MakesNoMarkup) (o : Options)
    {ch : Char} (hch : isMarkup ch = true) : Accounts t ch (t.render r o.escaping) := by
  have hcongruence : RenderM.Congruence o.escaping o.escaping fun x _ => Accounts t ch x :=
    RenderM.Accounts.congruence o.escaping
  refine Node.related_renderAll hcongruence r t ?_
  rintro (content | e | call) hmem
  · have htext : content ∈ t.texts := Emission.mem_filterMap_text?.mpr hmem
    exact .append fun _ h => .inl ⟨content, htext, h⟩
  · -- Escaped, a value has no markup in it.
    refine .bind (e.related_eval hcongruence r) fun v => .append fun s h => ?_
    rw [Text.clean_escape v.text ch h] at hch
    cases hch
  · have hcall : call ∈ t.blocks := Emission.mem_filterMap_block?.mpr hmem
    exact fun x _ hx => .filterOutput hcall (hfilters call hcall) hch hx

/-- **Where markup in an escaped output comes from.** With the standard filters and beginning with
an empty output, it comes from a text of the template, or from an argument that was passed to the
filter of a block. So there is none if the texts have none and the filters of blocks have no
arguments but literals without markup, whatever the variables are. -/
theorem markup_of_texts_and_block_arguments (t : Template) (o : Options) (s : Run) :
    let last := (t.render .standard o.escaping { s with output := "", calls := [] }).2
    (∀ ch ∈ last.output.toList, isMarkup ch = true → t.Explains ch last) ∧
      ((∀ content ∈ t.texts, Clean content) →
        (∀ call ∈ t.blocks, ∀ x, call.arg = some x → ∃ v, x.term = .literal v ∧ Clean v.text) →
        Clean last.output) := by
  intro last
  have hexplained : ∀ ch ∈ last.output.toList, isMarkup ch = true → t.Explains ch last := by
    intro ch hmem hch
    have haccounts := t.accounts_render (fun _ _ _ => Registry.makesNoMarkup_standard) o hch
    exact haccounts.output _ (fun h => (List.not_mem_nil h).elim) hmem
  refine ⟨hexplained, fun htexts hargs ch hmem => ?_⟩
  cases hch : isMarkup ch with
  | false => rfl
  | true =>
    -- Both ways in which the markup could have come in are closed.
    rcases hexplained ch hmem hch with
      ⟨content, hcontent, hin⟩ | ⟨call, hcall, c, -, -, hpasses, v, hv, hin⟩
    · rw [← hch]
      exact htexts content hcontent ch hin
    · obtain ⟨x, hx, hliteral⟩ := hpasses v hv
      obtain ⟨w, hw, hclean⟩ := hargs call hcall x hx
      rw [hliteral w hw] at hin
      rw [← hch]
      exact hclean ch hin

/-- A block in a block, around a value with markup in it: the inner filter changes the entities, the
outer one has a literal as its argument, and nothing in the output is markup. -/
theorem markup_of_texts_and_block_arguments_nested :
    let x : Operand := ⟨.variable ⟨"x", []⟩, none⟩
    let t : Template := [
      .filtered ⟨"add", some ⟨.literal (.string "!"), none⟩, none⟩
        [.text "a " none, .filtered ⟨"upper", none, none⟩ [.output ⟨x, []⟩ none] none] none]
    let o : Options := {}
    let s : Run := { context := Context.empty.set "x" (.string "<b>") }
    let last := (t.render .standard o.escaping { s with output := "", calls := [] }).2
    (∀ content ∈ t.texts, Clean content) ∧
      (∀ call ∈ t.blocks, ∀ x, call.arg = some x → ∃ v, x.term = .literal v ∧ Clean v.text) ∧
      last.output = "a &LT;B&GT;!" ∧
      Clean last.output := by
  intro x t o s last
  have htexts : ∀ content ∈ t.texts, Clean content := by decide +kernel
  have hblocks : t.blocks =
      [⟨"upper", none, none⟩, ⟨"add", some ⟨.literal (.string "!"), none⟩, none⟩] := rfl
  have hargs : ∀ call ∈ t.blocks, ∀ x, call.arg = some x →
      ∃ v, x.term = .literal v ∧ Clean v.text := by
    rw [hblocks]
    intro call hcall x hx
    rcases List.mem_cons.mp hcall with rfl | hcall
    · cases hx
    · obtain rfl := List.mem_singleton.mp hcall
      obtain rfl := Option.some.inj hx
      exact ⟨_, rfl, by decide +kernel⟩
  have hclean := (markup_of_texts_and_block_arguments t o s).2 htexts hargs
  exact ⟨htexts, hargs, by decide +kernel, hclean⟩

/-- **The argument of a block is not escaped.** There is no markup in the only text of this
template, and there are no literals in it; but what the variable brings in is written as it is. -/
theorem block_argument_not_escaped :
    let call : FilterCall := ⟨"add", some ⟨.variable ⟨"x", []⟩, none⟩, none⟩
    let t : Template := [.filtered call [.text "a" none] none]
    let s : Run := { context := Context.empty.set "x" (.string "<b>") }
    t.emissions = [.text "a", .block call] ∧
      Clean "a" ∧
      (t.render .standard {} s).2.output = "a<b>" ∧
      ¬ Clean (t.render .standard {} s).2.output := by
  intro call t s
  have houtput : (t.render .standard {} s).2.output = "a<b>" := by decide +kernel
  refine ⟨rfl, by decide +kernel, houtput, ?_⟩
  rw [houtput]
  decide +kernel

end Stencil
