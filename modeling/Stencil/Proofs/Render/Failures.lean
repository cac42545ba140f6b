import Stencil.Proofs.Render.Outputs
import Stencil.Proofs.Render.Turns
import Stencil.Proofs.Template.Nodes
import Stencil.Proofs.Template.Renaming

/-!
# How a rendering can fail

An error begins at one node of the template: a call goes wrong, a loop cannot run through its value,
or a limit is met. On its way out it passes every node around that one, and each of them would give
it a position; but the first position stays. So an error that leaves a rendering has a position, and
this is the one that the node at fault, its call or its operand gives, unless a filter had put
another one on its error before.

What goes wrong at a node depends on the variables that the node finds: one of them is missing, or
the value that an expression has there does not suit a filter or a loop. These variables are known,
too. They are those of the rendering as a whole, below one frame for each loop around the node, and
such a frame holds one item of what the loop runs through.

All this is said of templates whose variables are replaced, as `Template.rename` has it: a program
looks up other variables than its template if two of them share a key.

## Main definitions

* `RenderM.GivesIn c x a`: with the variables `c`, the step `x` gives `a`
* `Template.Reaches`: a rendering may come to a node, which then finds the variables given
* `FilterCall.FailsIn`, `Node.FailsIn`: what can go wrong at a call, and at a node itself, with the
  variables given
* `Node.place`: the position that is reported for a node
* `Registry.Raises r calls e`: the filter that was called last answered with the error `e`
* `RenderM.Ends I J P x`: from variables as `I` says, the step `x` fails as `P` says or ends with
  variables as `J` says
* `RenderM.EndsIn c P x`: with the variables `c`, the step `x` fails as `P` says or keeps them

## Main results

* `Template.Reaches.mem_nodes`: what a rendering comes to are nodes of the template
* `Node.Fails.pos`: where an error of a node points to
* `RenderM.EndsIn.ends_oneTurn`, `RenderM.EndsIn.forEach`: a turn, and a loop, end as the body does
  in the frames of turns
* `Node.endsIn_renderAll`: a rendering fails with what goes wrong at a node that it comes to, with
  the variables that the node finds
-/

namespace Stencil

variable {α β : Type}

/-! ## Variables that a node finds -/

/-- From a run with the variables `c`, the step gives `a`. -/
def RenderM.GivesIn (c : Context) (x : RenderM α) (a : α) : Prop :=
  ∃ s t, s.context = c ∧ x s = (.ok a, t)

/-- A rendering of `t` from the variables `c₀` may come to the node, which then finds the variables
`c`. Inside a loop these have the frame of a turn on top, for an item that the loop runs through. -/
inductive Template.Reaches (t : Template) (r : Registry) (look : Path → Path) (c₀ : Context) :
    Node → Context → Prop
  | top {n : Node} (hn : n ∈ t) : Reaches t r look c₀ n c₀
  | branch {branches : Branches} {pos : Option Position} {body : List Node} {n : Node} {c : Context}
      (h : Reaches t r look c₀ (.conditional branches pos) c) (hbody : body ∈ branches.bodies)
      (hn : n ∈ body) : Reaches t r look c₀ n c
  | turn {binding : String} {iterable : FilterExpr} {body : List Node} {empty : Option (List Node)}
      {pos : Option Position} {n : Node} {c : Context} {v item : Value} {items : List Value}
      {k : Nat} (h : Reaches t r look c₀ (.loop binding iterable body empty pos) c)
      (hv : ((iterable.rename look).eval r).GivesIn c v) (hitems : v.items? = some items)
      (hitem : items[k]? = some item) (hn : n ∈ body) :
      Reaches t r look c₀ n
        { c with inner := Frame.ofTurn binding item k items.length :: c.inner }
  | empty {binding : String} {iterable : FilterExpr} {body lacking : List Node}
      {pos : Option Position} {n : Node} {c : Context}
      (h : Reaches t r look c₀ (.loop binding iterable body (some lacking) pos) c)
      (hn : n ∈ lacking) : Reaches t r look c₀ n c
  | block {call : FilterCall} {body : List Node} {pos : Option Position} {n : Node} {c : Context}
      (h : Reaches t r look c₀ (.filtered call body pos) c) (hn : n ∈ body) :
      Reaches t r look c₀ n c

/-- A node that a rendering comes to is a node of the template. -/
theorem Template.Reaches.mem_nodes {t : Template} {r : Registry} {look : Path → Path}
    {c₀ c : Context} {n : Node} (h : t.Reaches r look c₀ n c) : n ∈ t.nodes := by
  -- With the node, all nodes in it are nodes of the template.
  suffices hsub : n.nodes ⊆ t.nodes from hsub n.self_mem_nodes
  induction h with
  | top hn => exact Node.nodes_subset_nodesAll hn
  | branch _ hbody hn ih =>
    rw [Node.nodes] at ih
    have hbranches := List.Subset.trans (Branches.nodesAll_subset_nodes _ hbody)
      (List.subset_of_cons_subset ih)
    exact List.Subset.trans (Node.nodes_subset_nodesAll hn) hbranches
  | turn _ _ _ _ hn ih =>
    rw [Node.nodes] at ih
    exact List.Subset.trans (Node.nodes_subset_nodesAll hn)
      (List.append_subset.mp (List.subset_of_cons_subset ih)).1
  | empty _ hn ih =>
    rw [Node.nodes] at ih
    exact List.Subset.trans (Node.nodes_subset_nodesAll hn)
      (List.append_subset.mp (List.subset_of_cons_subset ih)).2
  | block _ hn ih =>
    rw [Node.nodes] at ih
    exact List.Subset.trans (Node.nodes_subset_nodesAll hn) (List.subset_of_cons_subset ih)

/-! ## What can go wrong -/

/-- What can go wrong at a call with the variables `c`: that of its argument is not among them, the
registry has no filter that fits, or the filter, which is then the one that was called last, answers
the argument that the call has there with an error. -/
inductive FilterCall.FailsIn (r : Registry) (look : Path → Path) (c : Context) (calls : List Call)
    (call : FilterCall) : RenderError → Prop
  | argument {p : Path} {pos : Option Position} (harg : call.arg = some ⟨.variable p, pos⟩)
      (hmissing : c.find? (look p) = none) :
      FailsIn r look c calls call
        { fault := .missingVariable p.key, pos := some (pos.getD .unknown) }
  | selection {e : RenderError} (hselect : r.select call.name call.arg.isSome = .error e) :
      FailsIn r look c calls call (e.orPos (call.pos.getD .unknown))
  | answer {f : Filter} {v : Value} {arg : Option Value} {e : RenderError}
      (hget : r.get? call.name = some f) (hlast : calls.head? = some ⟨call.name, v, arg⟩)
      (harg : (call.rename look).evalArg.GivesIn c arg)
      (hresult : (f.apply v arg).result = .error e) :
      FailsIn r look c calls call (e.orPos (call.pos.getD .unknown))

/-- What can go wrong at one of the calls of an expression. -/
def FilterExpr.FailsIn (r : Registry) (look : Path → Path) (c : Context) (expr : FilterExpr)
    (calls : List Call) (e : RenderError) : Prop :=
  ∃ call ∈ expr.filters, call.FailsIn r look c calls e

/-- The position that is reported for a node. For a value that is written out it is that of the
value. -/
def Node.place : Node → Position
  | .output expr _ => expr.outerPos.getD .unknown
  | n => n.pos.getD .unknown

/-- What can go wrong at a node itself with the variables `c`, the nodes in it aside. -/
inductive Node.FailsIn (r : Registry) (o : Options) (look : Path → Path) (c : Context)
    (calls : List Call) : Node → RenderError → Prop
  /-- One of its calls goes wrong. -/
  | call {n : Node} {call : FilterCall} {e : RenderError} (hcall : call ∈ n.calls)
      (hfails : call.FailsIn r look c calls e) : Node.FailsIn r o look c calls n e
  /-- A loop cannot run through the value that it has there. -/
  | iterable {binding : String} {iterable : FilterExpr} {body : List Node}
      {empty : Option (List Node)} {pos : Option Position} {v : Value}
      (hv : ((iterable.rename look).eval r).GivesIn c v) (hitems : v.items? = none) :
      Node.FailsIn r o look c calls (.loop binding iterable body empty pos)
        { fault := .notIterable v.typeName, pos := some (iterable.outerPos.getD .unknown) }
  /-- A turn of a loop is one too many. -/
  | turn {binding : String} {iterable : FilterExpr} {body : List Node}
      {empty : Option (List Node)} {pos : Option Position} {count : Nat} {e : RenderError}
      (hturn : o.admitsIteration count = .error e) :
      Node.FailsIn r o look c calls (.loop binding iterable body empty pos)
        (e.orPos (pos.getD .unknown))
  /-- An evaluation, which a comment is not, is one too many or is called off. -/
  | evaluation {n : Node} {count : Nat} {cancelled : Bool} {e : RenderError}
      (hn : ∀ pos, n ≠ .comment pos) (htick : o.admitsEvaluation count cancelled = .error e) :
      Node.FailsIn r o look c calls n (e.orPos n.place)

/-- What can go wrong at a node itself, whatever variables it finds. -/
def Node.Fails (r : Registry) (o : Options) (calls : List Call) (n : Node) (e : RenderError) :
    Prop :=
  ∃ look c, n.FailsIn r o look c calls e

/-- What can go wrong at one of several nodes. -/
def Node.FailsAmong (r : Registry) (o : Options) (ns : List Node) (calls : List Call)
    (e : RenderError) : Prop :=
  ∃ n ∈ ns, n.Fails r o calls e

/-- What can go wrong at a node that a rendering comes to, with the variables that it finds. -/
def Template.FailsFrom (t : Template) (r : Registry) (o : Options) (look : Path → Path)
    (c₀ : Context) (calls : List Call) (e : RenderError) : Prop :=
  ∃ n c, t.Reaches r look c₀ n c ∧ n.FailsIn r o look c calls e

/-- The filter that was called last answered with this error. -/
def Registry.Raises (r : Registry) (calls : List Call) (e : RenderError) : Prop :=
  ∃ c f, calls.head? = some c ∧ r.get? c.name = some f ∧ (f.apply c.value c.arg).result = .error e

/-! ## Where an error points to -/

section Positions

variable {r : Registry} {o : Options} {look : Path → Path} {c c₀ : Context} {calls : List Call}
  {e : RenderError}

theorem RenderError.orPos_eq_self {p : Position} (h : e.pos = some p) (q : Position) :
    e.orPos q = e := by
  rw [RenderError.orPos, h, Option.getD_some, ← h]

/-- An error of a call points to the call or to its argument, if not to where the filter itself had
it point. -/
theorem FilterCall.FailsIn.pos {call : FilterCall} (h : call.FailsIn r look c calls e) :
    ∃ p, e.pos = some p ∧ (r.Raises calls e ∨ ∃ x ∈ call.positions, p = x.getD .unknown) := by
  have hhere : ∃ x ∈ call.positions, call.pos.getD .unknown = x.getD .unknown :=
    ⟨call.pos, call.pos_mem_positions, rfl⟩
  cases h with
  | argument harg _ => exact ⟨_, rfl, .inr ⟨_, FilterCall.arg_pos_mem_positions harg, rfl⟩⟩
  | @selection e hselect =>
    -- The registry puts no position on its errors.
    have hpos : e.pos = none := by
      rw [Registry.select] at hselect
      split at hselect
      · rw [← Except.error.inj hselect]
      · split at hselect
        · rw [← Except.error.inj hselect]
        · cases hselect
    refine ⟨call.pos.getD .unknown, ?_, .inr hhere⟩
    rw [RenderError.pos_orPos, hpos, Option.getD_none]
  | @answer f v arg e hget hlast _ hresult =>
    cases hpos : e.pos with
    | none => exact ⟨call.pos.getD .unknown, by simp [hpos], .inr hhere⟩
    | some p =>
      rw [RenderError.orPos_eq_self hpos]
      exact ⟨p, hpos, .inl ⟨_, f, hlast, hget, hresult⟩⟩

theorem Node.exists_place_eq (n : Node) : ∃ x ∈ n.positions, n.place = x.getD .unknown := by
  cases n with
  | output expr pos =>
    refine ⟨expr.outerPos, ?_, rfl⟩
    exact Node.mem_positions_of_mem_exprs List.mem_cons_self expr.outerPos_mem_positions
  | _ => exact ⟨_, Node.pos_mem_positions _, rfl⟩

/-- An evaluation is not admitted if there is a limit that it exceeds, or if the rendering heeds a
call to stop. -/
theorem Options.of_admitsEvaluation_eq_error {count : Nat} {cancelled : Bool}
    (h : o.admitsEvaluation count cancelled = .error e) :
    (∃ max, o.maxEvaluations = some max ∧ e = { fault := .tooManyEvaluations max }) ∨
      o.cancellable = true ∧ e = { fault := .cancelled "render cancelled" } := by
  have hheed (h : (if o.cancellable && cancelled then
      .error { fault := .cancelled "render cancelled" } else .ok () : Except RenderError Unit) =
        .error e) :
      o.cancellable = true ∧ e = { fault := .cancelled "render cancelled" } := by
    split at h
    · next hcancel =>
      exact ⟨(Bool.and_eq_true_iff.mp hcancel).1, (Except.error.inj h).symm⟩
    · cases h
  simp only [Options.admitsEvaluation] at h
  split at h
  · next max hmax =>
    split at h
    · exact .inl ⟨max, hmax, (Except.error.inj h).symm⟩
    · exact .inr (hheed h)
  · exact .inr (hheed h)

/-- A turn is not admitted if there is a limit that it exceeds. -/
theorem Options.of_admitsIteration_eq_error {count : Nat}
    (h : o.admitsIteration count = .error e) :
    ∃ max, o.maxIterations = some max ∧ e = { fault := .tooManyIterations max } := by
  simp only [Options.admitsIteration] at h
  split at h
  · next max hmax =>
    split at h
    · exact ⟨max, hmax, (Except.error.inj h).symm⟩
    · cases h
  · cases h

/-- **An error of a node points to the node, to one of its calls or to one of its operands**, if not
to where a filter itself had it point. -/
theorem Node.FailsIn.pos {n : Node} (h : n.FailsIn r o look c calls e) :
    ∃ p, e.pos = some p ∧ (r.Raises calls e ∨ ∃ x ∈ n.positions, p = x.getD .unknown) := by
  cases h with
  | call hcall hfails =>
    obtain ⟨p, hp, hraises | ⟨x, hx, hpx⟩⟩ := hfails.pos
    · exact ⟨p, hp, .inl hraises⟩
    · exact ⟨p, hp, .inr ⟨x, Node.mem_positions_of_mem_calls hcall hx, hpx⟩⟩
  | @iterable binding iterable body empty pos v _ _ =>
    refine ⟨_, rfl, .inr ⟨iterable.outerPos, ?_, rfl⟩⟩
    exact Node.mem_positions_of_mem_exprs List.mem_cons_self iterable.outerPos_mem_positions
  | @turn binding iterable body empty pos count e hturn =>
    -- Limits put no position on their errors.
    obtain ⟨max, -, rfl⟩ := Options.of_admitsIteration_eq_error hturn
    exact ⟨pos.getD .unknown, rfl, .inr ⟨pos, Node.pos_mem_positions _, rfl⟩⟩
  | evaluation hn htick =>
    refine ⟨n.place, ?_, .inr n.exists_place_eq⟩
    rcases Options.of_admitsEvaluation_eq_error htick with ⟨max, -, rfl⟩ | ⟨-, rfl⟩ <;> rfl

theorem Node.Fails.pos {n : Node} (h : n.Fails r o calls e) :
    ∃ p, e.pos = some p ∧ (r.Raises calls e ∨ ∃ x ∈ n.positions, p = x.getD .unknown) := by
  obtain ⟨look, c, hfails⟩ := h
  exact hfails.pos

/-- An error that has come from a node keeps its position at the nodes around it. -/
theorem Template.FailsFrom.orPos {t : Template} (h : t.FailsFrom r o look c₀ calls e)
    (pos : Position) : t.FailsFrom r o look c₀ calls (e.orPos pos) := by
  obtain ⟨n, c, hn, hfails⟩ := h
  obtain ⟨p, hp, -⟩ := hfails.pos
  rw [RenderError.orPos_eq_self hp]
  exact ⟨n, c, hn, hfails⟩

end Positions

/-! ## Steps with given variables -/

/-- From every run whose variables have the property `I`, the step fails with an error that has the
property `P`, together with the calls on record by then, or it ends with variables that have the
property `J`. -/
def RenderM.Ends (I J : Context → Prop) (P : List Call → RenderError → Prop) (x : RenderM α) :
    Prop :=
  ∀ s, I s.context →
    match x s with
    | (.ok _, t) => J t.context
    | (.error e, t) => P t.calls e

/-- The second step may rely on what the first one gives. -/
theorem RenderM.Ends.bind {I J K : Context → Prop} {P : List Call → RenderError → Prop}
    {x : RenderM α} {f : α → RenderM β} (hx : Ends I J P x)
    (hf : ∀ a, (∃ s t, I s.context ∧ x s = (.ok a, t)) → Ends J K P (f a)) :
    Ends I K P (x >>= f) := by
  intro s hs
  have hend := hx s hs
  rcases hxs : x s with ⟨e | a, t⟩
  · rw [hxs] at hend
    rw [bind_apply_error x f s hxs]
    exact hend
  · rw [hxs] at hend
    rw [bind_apply_ok x f s hxs]
    exact hf a ⟨s, t, hs, hxs⟩ t hend

theorem RenderM.Ends.mono {I J K : Context → Prop} {P : List Call → RenderError → Prop}
    {x : RenderM α} (hx : Ends I J P x) (h : ∀ c, J c → K c) : Ends I K P x := by
  intro s hs
  have hend := hx s hs
  rcases hxs : x s with ⟨e | a, t⟩
  · rwa [hxs] at hend
  · rw [hxs] at hend
    exact h t.context hend

/-- From every run with the variables `c`, the step fails with an error that has the property `P`,
or it ends with the variables `c` again. -/
def RenderM.EndsIn (c : Context) (P : List Call → RenderError → Prop) (x : RenderM α) : Prop :=
  Ends (· = c) (· = c) P x

namespace RenderM.EndsIn

variable {c : Context} {P Q : List Call → RenderError → Prop}

theorem imp {x : RenderM α} (hx : EndsIn c P x) (h : ∀ calls e, P calls e → Q calls e) :
    EndsIn c Q x := by
  intro s hs
  have hend := hx s hs
  rcases hxs : x s with ⟨e | a, t⟩
  · rw [hxs] at hend
    exact h t.calls e hend
  · rwa [hxs] at hend

theorem pure (a : α) : EndsIn c P (Pure.pure a) :=
  fun _ hs => hs

theorem append (text : String) : EndsIn c P (RenderM.append text) :=
  fun _ hs => hs

theorem resolveOr (p : Path) (fallback : Option Value) :
    EndsIn c P (RenderM.resolveOr p fallback) :=
  fun _ hs => hs

/-- A variable that has to exist may be missing. -/
theorem resolve {p : Path}
    (h : c.find? p = none → ∀ calls, P calls { fault := .missingVariable p.key }) :
    EndsIn c P (RenderM.resolve p) := by
  intro s hs
  rw [RenderM.resolve, hs]
  cases hfind : c.find? p with
  | none => exact h hfind s.calls
  | some v => exact hs

/-- The second step may rely on what the first one gives with these variables. -/
theorem bind {x : RenderM α} {f : α → RenderM β} (hx : EndsIn c P x)
    (hf : ∀ a, x.GivesIn c a → EndsIn c P (f a)) : EndsIn c P (x >>= f) :=
  Ends.bind hx hf

/-- Errors of a step that have no position are at the position given. -/
theorem located {x : RenderM α} {pos : Position}
    (hx : EndsIn c (fun calls e => P calls (e.orPos pos)) x) :
    EndsIn c P (RenderM.located pos x) := by
  intro s hs
  have hend := hx s hs
  rw [RenderM.located]
  rcases hxs : x s with ⟨e | a, t⟩ <;> rwa [hxs] at hend

theorem captured {x : RenderM Unit} (hx : EndsIn c P x) : EndsIn c P (RenderM.captured x) := by
  intro s hs
  have hend := hx { s with output := "" } hs
  rw [RenderM.captured_apply]
  rcases hxs : x { s with output := "" } with ⟨e | a, t⟩ <;> rwa [hxs] at hend

section Loops

variable {o : Options} {binding : String} {items : List Value} {body : RenderM Unit}
  (hturn : ∀ calls count e, o.admitsIteration count = .error e → P calls e)
  (hbody : ∀ k item, items[k]? = some item →
    EndsIn { c with inner := Frame.ofTurn binding item k items.length :: c.inner } P body)

include hturn in
theorem ends_turn (I : Context → Prop) : Ends I I P (RenderM.turn o) := by
  intro s hs
  rw [RenderM.turn]
  cases hadmits : o.admitsIteration (s.iterations + 1) with
  | error e => exact hturn _ _ e hadmits
  | ok _ => exact hs

include hturn hbody

/-- **One turn** leaves the frame of the loop as it finds it: below are the variables `c`, and the
frame can be bound for the next turn. -/
theorem ends_oneTurn {item : Value} {index : Nat} (hitem : items[index]? = some item) :
    Ends (fun d => d.Rebinds binding ∧ d.pop = c) (fun d => d.Rebinds binding ∧ d.pop = c) P
      (do
        RenderM.turn o
        RenderM.modify fun s =>
          { s with context := s.context.bindItem binding item (.ofNat index) (.ofNat items.length) }
        body) := by
  refine .bind (ends_turn hturn _) fun _ _ => .bind (J := (· =
    { c with inner := Frame.ofTurn binding item index items.length :: c.inner })) ?_ fun _ _ => ?_
  · -- Once its variables are bound, the frame of the loop is the frame of the turn.
    rintro s ⟨hs, hpop⟩
    rw [modify_apply, hs, hpop, Context.bindItem_push]
  · refine (hbody index item hitem).mono ?_
    rintro d rfl
    refine ⟨?_, rfl⟩
    rw [← Context.bindItem_push]
    exact Context.rebinds_bindItem c binding item index items.length

/-- So do all turns that are left. -/
theorem ends_turns (rest : List Value) (index : Nat)
    (hrest : ∀ j item, rest[j]? = some item → items[index + j]? = some item) :
    Ends (fun d => d.Rebinds binding ∧ d.pop = c) (fun d => d.Rebinds binding ∧ d.pop = c) P
      (RenderM.turns o binding body items.length index rest) := by
  induction rest generalizing index with
  | nil => exact fun _ hs => hs
  | cons item rest ih =>
    have hfirst := ends_oneTurn hturn hbody (hrest 0 item rfl)
    have hothers := ih (index + 1) fun j other hj => by
      rw [Nat.add_right_comm]
      exact hrest (j + 1) other hj
    have hturns := hfirst.bind fun _ _ => hothers
    rwa [bind_assoc, bind_congr fun _ => bind_assoc _ _ _] at hturns

/-- **A loop** fails in a turn that is one too many, or as its body fails in the frame of a turn. -/
theorem forEach : EndsIn c P (RenderM.forEach o binding items body) := by
  intro s hs
  have hend := ends_turns hturn hbody items 0 (fun j item hj => by rwa [Nat.zero_add])
    { s with context := s.context.push } ⟨Context.rebinds_push binding s.context, hs⟩
  rw [RenderM.forEach, RenderM.inFrame]
  rcases hrun : RenderM.turns o binding body items.length 0 items
    { s with context := s.context.push } with ⟨e | _, t⟩
  · rwa [hrun] at hend
  · rw [hrun] at hend
    exact hend.2

end Loops

section Nodes

variable {t : Template} {r : Registry} {o : Options} {look : Path → Path} {c₀ : Context} {n : Node}

/-- **A node** fails as what it does fails, or for want of a further evaluation. -/
theorem evaluation (hn : t.Reaches r look c₀ n c) (hcomment : ∀ pos, n ≠ .comment pos)
    {x : RenderM Unit}
    (hx : EndsIn c (fun calls e => t.FailsFrom r o look c₀ calls (e.orPos n.place)) x) :
    EndsIn c (t.FailsFrom r o look c₀) (RenderM.evaluation o n.place x) := by
  refine .located (.bind ?_ fun _ _ => hx)
  intro s hs
  rw [RenderM.tick]
  cases htick : o.admitsEvaluation (s.evaluations + 1) s.cancelled with
  | error e => exact ⟨n, c, hn, .evaluation hcomment htick⟩
  | ok _ => exact hs

/-- What fails at nodes inside is not given another position. -/
theorem orPos {x : RenderM α} (hx : EndsIn c (t.FailsFrom r o look c₀) x) (pos : Position) :
    EndsIn c (fun calls e => t.FailsFrom r o look c₀ calls (e.orPos pos)) x :=
  hx.imp fun _ _ h => h.orPos pos

/-- What fails at a call fails at the node whose call it is. -/
theorem of_call (hn : t.Reaches r look c₀ n c) {call : FilterCall} (hcall : call ∈ n.calls)
    {x : RenderM α} (hx : EndsIn c (fun calls e => call.FailsIn r look c calls e) x) :
    EndsIn c (t.FailsFrom r o look c₀) x :=
  hx.imp fun _ _ h => ⟨n, c, hn, .call hcall h⟩

/-- What fails at an expression fails at the node whose expression it is. -/
theorem of_expr (hn : t.Reaches r look c₀ n c) {expr : FilterExpr} (hexpr : expr ∈ n.exprs)
    {x : RenderM α} (hx : EndsIn c (expr.FailsIn r look c) x) :
    EndsIn c (t.FailsFrom r o look c₀) x := by
  refine hx.imp ?_
  rintro calls e ⟨call, hcall, hfails⟩
  exact ⟨n, c, hn, .call (Node.mem_calls_of_mem_exprs hexpr hcall) hfails⟩

end Nodes

end RenderM.EndsIn

open RenderM (EndsIn GivesIn)

/-! ## Expressions -/

section Expressions

variable (r : Registry) {look : Path → Path} (hlook : ∀ p, (look p).key = p.key) (c : Context)
include hlook

theorem FilterCall.endsIn_evalArg (call : FilterCall) :
    EndsIn c (fun calls e => call.FailsIn r look c calls e) (call.rename look).evalArg := by
  rcases call with ⟨name, _ | ⟨v | p, pos⟩, callPos⟩
  · exact .pure none
  · exact .bind (.pure v) fun v _ => .pure (some v)
  · refine .bind (.located (.resolve fun hmissing calls => ?_)) fun v _ => .pure (some v)
    rw [hlook]
    exact .argument rfl hmissing

omit hlook in
/-- The argument that is evaluated is there if, and only if, the call has one. -/
theorem FilterCall.isSome_of_givesIn_evalArg {call : FilterCall} {arg : Option Value}
    (h : call.evalArg.GivesIn c arg) : arg.isSome = call.arg.isSome := by
  obtain ⟨s, t, -, harg⟩ := h
  rcases call with ⟨name, _ | x, pos⟩
  · obtain rfl := Except.ok.inj (Prod.mk.inj harg).1
    rfl
  · obtain ⟨w, _, -, hw⟩ := RenderM.bind_eq_ok harg
    obtain rfl := Except.ok.inj (Prod.mk.inj hw).1
    rfl

theorem FilterCall.endsIn_apply (call : FilterCall) (v : Value) :
    EndsIn c (fun calls e => call.FailsIn r look c calls e) ((call.rename look).apply r v) := by
  refine .bind (call.endsIn_evalArg r hlook c) fun arg harg => ?_
  have hsome : arg.isSome = call.arg.isSome := by
    rw [FilterCall.isSome_of_givesIn_evalArg c harg, FilterCall.isSome_arg_rename]
  rw [FilterCall.name_rename, FilterCall.pos_rename, Registry.call, hsome]
  refine .located fun s hs => ?_
  cases hselect : r.select call.name call.arg.isSome with
  | error e => exact .selection hselect
  | ok f =>
    have hget := Registry.get?_of_select hselect
    dsimp only [Filter.call]
    cases hresult : (f.apply v arg).result with
    | ok w => exact hs
    | error e =>
      refine .answer hget ?_ harg hresult
      rw [List.head?_cons, Registry.name_of_get? hget]

theorem FilterCall.endsIn_applyAll (calls : List FilterCall) (v : Value) :
    EndsIn c (fun record e => ∃ call ∈ calls, call.FailsIn r look c record e)
      (FilterCall.applyAll r (calls.map (FilterCall.rename look)) v) := by
  induction calls generalizing v with
  | nil => exact .pure v
  | cons call rest ih =>
    refine .bind ((call.endsIn_apply r hlook c v).imp fun _ _ h => ?_) fun w _ => (ih w).imp ?_
    · exact ⟨call, List.mem_cons_self, h⟩
    · rintro record e ⟨other, hother, h⟩
      exact ⟨other, List.mem_cons_of_mem _ hother, h⟩

/-- An expression fails at one of its calls: for a base that is missing something else serves. -/
theorem FilterExpr.endsIn_evalOr (fallback : Option Value) (expr : FilterExpr) :
    EndsIn c (expr.FailsIn r look c)
      ((expr.rename look).base.evalOr fallback >>=
        FilterCall.applyAll r (expr.rename look).filters) := by
  refine .bind ?_ fun v _ => FilterCall.endsIn_applyAll r hlook c expr.filters v
  rcases expr with ⟨⟨v | p, pos⟩, filters⟩
  · exact .pure v
  · exact .resolveOr (look p) fallback

theorem FilterExpr.endsIn_eval (expr : FilterExpr) :
    EndsIn c (expr.FailsIn r look c) ((expr.rename look).eval r) :=
  expr.endsIn_evalOr r hlook c none

end Expressions

/-! ## Trees -/

section Trees

variable {t : Template} {r : Registry} {look : Path → Path} (o : Options) {c₀ : Context}

/-- The items that a loop runs through are those of a value that its expression has. -/
theorem FilterExpr.givesIn_of_evalItems {e : FilterExpr} {c : Context} {items : List Value}
    (h : (e.evalItems r).GivesIn c items) :
    ∃ v, (e.eval r).GivesIn c v ∧ v.items? = some items := by
  obtain ⟨s, u, hs, heval⟩ := h
  obtain ⟨v, s', hv, hlocated⟩ := RenderM.bind_eq_ok heval
  have hitems := RenderM.located_eq_ok hlocated
  rw [RenderM.itemsOf] at hitems
  cases hsome : v.items? with
  | none =>
    rw [hsome] at hitems
    cases hitems
  | some items =>
    rw [hsome] at hitems
    obtain rfl := Except.ok.inj (Prod.mk.inj hitems).1
    exact ⟨v, ⟨s, s', hs, hv⟩, hsome⟩

/-- A loop fails at its expression, or for a value of it that has no items. -/
theorem FilterExpr.endsIn_evalItems (hlook : ∀ p, (look p).key = p.key) {binding : String}
    {iterable : FilterExpr} {body : List Node} {empty : Option (List Node)} {pos : Option Position}
    {c : Context}
    (hn : t.Reaches r look c₀ (.loop binding iterable body empty pos) c) :
    EndsIn c (t.FailsFrom r o look c₀) ((iterable.rename look).evalItems r) := by
  refine .bind (.of_expr hn List.mem_cons_self (iterable.endsIn_eval r hlook c)) fun v hv => ?_
  rw [FilterExpr.outerPos_rename]
  refine .located fun s hs => ?_
  rw [RenderM.itemsOf]
  cases hitems : v.items? with
  | some items => exact hs
  | none => exact ⟨_, c, hn, .iterable hv hitems⟩

variable {ev : FilterExpr → RenderM Value}

mutual

theorem Node.endsIn_render (hlook : ∀ p, (look p).key = p.key)
    (hev : ∀ c expr, EndsIn c (FilterExpr.FailsIn r look c expr) (ev (expr.rename look)))
    (n : Node) {c : Context} (hn : t.Reaches r look c₀ n c) :
    EndsIn c (t.FailsFrom r o look c₀) ((n.rename look).renderWith ev r o) := by
  match n with
  | .comment pos =>
    rw [Node.rename, Node.renderWith]
    exact .pure ()
  | .text content pos =>
    rw [Node.rename, Node.renderWith]
    exact .evaluation hn (fun _ h => nomatch h) (.append content)
  | .output expr pos =>
    rw [Node.rename, Node.renderWith, FilterExpr.outerPos_rename]
    refine .evaluation hn (fun _ h => nomatch h) (.orPos (.bind ?_ fun v _ => .append _) _)
    exact .of_expr hn List.mem_cons_self (hev c expr)
  | .conditional branches pos =>
    rw [Node.rename, Node.renderWith]
    refine .evaluation hn (fun _ h => nomatch h) (.orPos ?_ _)
    apply Branches.endsIn_render hlook hev branches
    · exact fun body hbody m hm => .branch hn hbody hm
    · exact fun test htest => .of_expr hn htest (test.endsIn_eval r hlook c)
  | .loop binding iterable body empty pos =>
    rw [Node.rename, Node.renderWith]
    refine .evaluation hn (fun _ h => nomatch h)
      (.bind (.orPos (FilterExpr.endsIn_evalItems o hlook hn) _) fun items hitems => ?_)
    cases items with
    | nil =>
      apply EndsIn.orPos
      exact Node.endsIn_renderOpt hlook hev empty fun lacking hlacking m hm =>
        .empty (hlacking ▸ hn) hm
    | cons item rest =>
      obtain ⟨v, hv, hsome⟩ := FilterExpr.givesIn_of_evalItems hitems
      refine .forEach (fun calls count e hturn => ⟨_, c, hn, .turn hturn⟩) fun k item hitem => ?_
      apply EndsIn.orPos
      exact Node.endsIn_renderAll hlook hev body fun m hm => .turn hn hv hsome hitem hm
  | .filtered call body pos =>
    rw [Node.rename, Node.renderWith]
    refine .evaluation hn (fun _ h => nomatch h) (.orPos (.bind (.captured ?_) fun inner _ => ?_) _)
    · exact Node.endsIn_renderAll hlook hev body fun m hm => .block hn hm
    · have hcall : call ∈ (Node.filtered call body pos).calls := by simp [Node.calls, Node.block?]
      exact .bind (.of_call hn hcall (call.endsIn_apply r hlook c _)) fun v _ => .append v.text

/-- **A rendering fails with what goes wrong at a node that it comes to**, with the variables that
the node finds. -/
theorem Node.endsIn_renderAll (hlook : ∀ p, (look p).key = p.key)
    (hev : ∀ c expr, EndsIn c (FilterExpr.FailsIn r look c expr) (ev (expr.rename look)))
    (ns : List Node) {c : Context} (hns : ∀ n ∈ ns, t.Reaches r look c₀ n c) :
    EndsIn c (t.FailsFrom r o look c₀) (Node.renderAllWith ev r o (Node.renameAll look ns)) := by
  match ns with
  | [] =>
    rw [Node.renameAll, Node.renderAllWith]
    exact .pure ()
  | n :: rest =>
    rw [Node.renameAll, Node.renderAllWith]
    refine .bind (Node.endsIn_render hlook hev n (hns n List.mem_cons_self)) fun _ _ => ?_
    exact Node.endsIn_renderAll hlook hev rest fun m hm => hns m (List.mem_cons_of_mem _ hm)

theorem Node.endsIn_renderOpt (hlook : ∀ p, (look p).key = p.key)
    (hev : ∀ c expr, EndsIn c (FilterExpr.FailsIn r look c expr) (ev (expr.rename look)))
    (ns : Option (List Node)) {c : Context}
    (hns : ∀ body, ns = some body → ∀ n ∈ body, t.Reaches r look c₀ n c) :
    EndsIn c (t.FailsFrom r o look c₀) (Node.renderOptWith ev r o (Node.renameOpt look ns)) := by
  match ns with
  | none =>
    rw [Node.renameOpt, Node.renderOptWith]
    exact .pure ()
  | some body =>
    rw [Node.renameOpt, Node.renderOptWith]
    exact Node.endsIn_renderAll hlook hev body (hns body rfl)

/-- Branches fail as their tests fail, which belong to the node around them, or in a body. -/
theorem Branches.endsIn_render (hlook : ∀ p, (look p).key = p.key)
    (hev : ∀ c expr, EndsIn c (FilterExpr.FailsIn r look c expr) (ev (expr.rename look)))
    (b : Branches) {c : Context} (hb : ∀ body ∈ b.bodies, ∀ n ∈ body, t.Reaches r look c₀ n c)
    (htests : ∀ test ∈ b.tests, EndsIn c (t.FailsFrom r o look c₀) ((test.rename look).eval r)) :
    EndsIn c (t.FailsFrom r o look c₀) ((b.rename look).renderWith ev r o) := by
  match b with
  | .none =>
    rw [Branches.rename, Branches.renderWith]
    exact .pure ()
  | .otherwise body =>
    rw [Branches.rename, Branches.renderWith]
    exact Node.endsIn_renderAll hlook hev body (hb body List.mem_cons_self)
  | .when test body rest =>
    rw [Branches.rename, Branches.renderWith]
    refine .bind (.bind (htests test.test List.mem_cons_self) fun v _ => .pure _) fun holds _ => ?_
    cases holds with
    | true => exact Node.endsIn_renderAll hlook hev body (hb body List.mem_cons_self)
    | false =>
      apply Branches.endsIn_render hlook hev rest
      · exact fun other hother => hb other (List.mem_cons_of_mem _ hother)
      · exact fun other hother => htests other (List.mem_cons_of_mem _ hother)

end

end Trees

end Stencil
