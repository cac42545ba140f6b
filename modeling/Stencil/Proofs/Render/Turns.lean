import Stencil.Filter.Standard
import Stencil.Proofs.Render.Frames

/-!
# The turns of a loop do not see each other

A loop takes all its turns in one frame. It binds the variables of a turn over those of the turn
before, and it never clears the frame in between. Still a turn finds nothing there but its own
variables: its predecessor has left exactly two names behind, both of which are bound anew, each
where it stood. For that the body has to leave the frames as they were, whatever it contains and
also where it fails, and every body does.

So the loop may as well give each turn a frame of its own, which holds the variables of that turn
alone and is gone before the next turn begins.

## Main definitions

* `Frame.ofTurn`: the variables of one turn, in a frame of their own
* `RenderM.withFrame`: a step above a given frame
* `RenderM.turnsApart`, `RenderM.forEachApart`: the turns of a loop, each above a frame of its own
* `Context.Rebinds`: a turn can be bound here as it can in a new frame
* `RenderM.DoesAbove`: one step does above the frame of a loop what another does without it

## Main results

* `RenderM.DoesAbove.turns`: in one frame or in many, the turns do the same below
* `RenderM.forEach_eq_forEachApart`: a loop may take its turns apart if its body keeps the variables
* `loops_take_turns_apart`: loops of both ways of rendering may take their turns apart
-/

namespace Stencil

variable {α β : Type}

/-! ## Frames of turns -/

/-- The variables of one turn, in a frame of their own: `forloop` and then the variable of the loop,
or the latter alone if it has that name. -/
def Frame.ofTurn (binding : String) (item : Value) (index count : Nat) : Frame :=
  if h : binding = "forloop" then ⟨[(binding, item)], by simp⟩
  else
    ⟨[("forloop", Context.loopRecord (.ofNat index) (.ofNat count)), (binding, item)], by
      simp [Ne.symm h]⟩

namespace RenderM

/-- A step with the given frame on top of the others. -/
def withFrame (frame : Frame) (x : RenderM α) : RenderM α := fun s =>
  let (result, t) := x { s with context.inner := frame :: s.context.inner }
  (result, { t with context := t.context.pop })

/-- The step `body` for every item, each time above the frame of that turn. -/
def turnsApart (o : Options) (binding : String) (body : RenderM Unit) (count : Nat) :
    Nat → List Value → RenderM Unit
  | _, [] => return ()
  | index, item :: rest => do
    turn o
    withFrame (Frame.ofTurn binding item index count) body
    turnsApart o binding body count (index + 1) rest

/-- The step `body` for every item, in as many frames. -/
def forEachApart (o : Options) (binding : String) (items : List Value) (body : RenderM Unit) :
    RenderM Unit :=
  turnsApart o binding body items.length 0 items

end RenderM

namespace Context

/-- Binding the variables of a turn in the innermost frame has the effect that it has in a new frame
instead. -/
def Rebinds (binding : String) (c : Context) : Prop :=
  ∀ item index count, c.bindItem binding item index count =
    c.pop.push.bindItem binding item index count

/-- The variables of a turn are all that is in its frame. -/
theorem bindItem_push (c : Context) (binding : String) (item : Value) (index count : Nat) :
    c.push.bindItem binding item (.ofNat index) (.ofNat count) =
      { c with inner := Frame.ofTurn binding item index count :: c.inner } := by
  by_cases h : binding = "forloop"
  · simp [bindItem, set, push, Bindings.insert, Bindings.insertEntry, Bindings.empty,
      Frame.ofTurn, h]
  · simp [bindItem, set, push, Bindings.insert, Bindings.insertEntry, Bindings.empty,
      Frame.ofTurn, h, Ne.symm h]

theorem rebinds_push (binding : String) (c : Context) : c.push.Rebinds binding :=
  fun _ _ _ => rfl

/-- The next turn binds the names of the turn before, and no other name is there. -/
theorem rebinds_bindItem (c : Context) (binding : String) (item : Value) (index count : Nat) :
    (c.push.bindItem binding item (.ofNat index) (.ofNat count)).Rebinds binding := by
  intro item' index' count'
  rw [bindItem_push]
  by_cases h : binding = "forloop"
  · subst h
    rfl
  · simp [bindItem, set, push, pop, Bindings.insert, Bindings.insertEntry, Bindings.empty,
      Frame.ofTurn, h, Ne.symm h]

end Context

/-! ## Turns in one frame and in many -/

/-- The run without its innermost frame. -/
def Run.popped (s : Run) : Run :=
  { s with context := s.context.pop }

/-- Above the frame of a loop, `x` does what `y` does without that frame, and it leaves a frame in
which the variables of a turn can be bound again. -/
def RenderM.DoesAbove (binding : String) (x y : RenderM α) : Prop :=
  ∀ s, s.context.Rebinds binding →
    y s.popped = ((x s).1, (x s).2.popped) ∧ (x s).2.context.Rebinds binding

namespace RenderM.DoesAbove

variable {binding : String}

theorem pure (a : α) : DoesAbove binding (Pure.pure a) (Pure.pure a) :=
  fun _ hs => ⟨rfl, hs⟩

theorem turn (o : Options) : DoesAbove binding (RenderM.turn o) (RenderM.turn o) :=
  fun _ hs => ⟨rfl, hs⟩

theorem bind {x y : RenderM α} {f g : α → RenderM β} (hxy : DoesAbove binding x y)
    (hfg : ∀ a, DoesAbove binding (f a) (g a)) : DoesAbove binding (x >>= f) (y >>= g) := by
  intro s hs
  obtain ⟨hbelow, ht⟩ := hxy s hs
  rcases hx : x s with ⟨e | a, t⟩
  · rw [hx] at hbelow ht
    rw [bind_apply_error x f s hx, bind_apply_error y g _ hbelow]
    exact ⟨rfl, ht⟩
  · rw [hx] at hbelow ht
    rw [bind_apply_ok x f s hx, bind_apply_ok y g _ hbelow]
    exact hfg a t ht

/-- **A turn**: once its variables are bound, the frame of the loop is the frame of the turn, and
the body leaves it so. -/
theorem bindItem {body : RenderM Unit} (hbody : KeepsContext body) (item : Value)
    (index count : Nat) :
    DoesAbove binding
      (do
        modify fun s =>
          { s with context := s.context.bindItem binding item (.ofNat index) (.ofNat count) }
        body)
      (withFrame (Frame.ofTurn binding item index count) body) := by
  intro s hs
  have hbound : s.context.bindItem binding item (.ofNat index) (.ofNat count) =
      s.context.pop.push.bindItem binding item (.ofNat index) (.ofNat count) := hs _ _ _
  rw [bind_apply_ok _ _ s (modify_apply s _), hbound]
  constructor
  · rw [Context.bindItem_push]
    rfl
  · rw [hbody.context_eq]
    exact Context.rebinds_bindItem s.context.pop binding item index count

/-- **The turns of a loop**, taken in one frame and in many. -/
theorem turns {body : RenderM Unit} (hbody : KeepsContext body) (o : Options) (count : Nat)
    (items : List Value) (index : Nat) :
    DoesAbove binding (RenderM.turns o binding body count index items)
      (turnsApart o binding body count index items) := by
  induction items generalizing index with
  | nil => exact .pure ()
  | cons item rest ih =>
    rw [RenderM.turns, turnsApart]
    apply DoesAbove.bind (.turn o)
    intro _
    -- Binding the variables and running the body are one step on the other side.
    rw [← bind_assoc]
    exact DoesAbove.bind (.bindItem hbody item index count) fun _ => ih (index + 1)

end RenderM.DoesAbove

/-- **A loop may take its turns apart**, each in a frame of its own, if its body keeps the
variables. -/
theorem RenderM.forEach_eq_forEachApart {body : RenderM Unit} (hbody : KeepsContext body)
    (o : Options) (binding : String) (items : List Value) :
    forEach o binding items body = forEachApart o binding items body := by
  funext s
  have hturns : DoesAbove binding (turns o binding body items.length 0 items)
      (turnsApart o binding body items.length 0 items) := .turns hbody o items.length items 0
  -- The loop begins in a frame that it has just pushed, and without it in the run itself.
  obtain ⟨hbelow, _⟩ := hturns { s with context := s.context.push }
    (Context.rebinds_push binding s.context)
  exact hbelow.symm

/-! ## Renderings -/

/-- **The turns of a loop do not see each other's variables**: the loop comes to the same result and
the same run, if every turn has a frame of its own instead, with only the variables of that turn in
it. This holds of the loops of a tree and of the loops of a program. A turn's record counts from
zero and from one, and tells the first turn and the last. -/
theorem loops_take_turns_apart (o : Options) (binding : String) :
    (∀ (r : Registry) (iterable : FilterExpr) (body : List Node) (empty : Option (List Node))
        (pos : Option Position),
      (∀ items, RenderM.forEach o binding items (Node.renderAll r o body) =
        RenderM.forEachApart o binding items (Node.renderAll r o body)) ∧
      (Node.loop binding iterable body empty pos).render r o =
        RenderM.evaluation o (pos.getD .unknown) do
          match ← iterable.evalItems r with
          | [] => Node.renderOpt r o empty
          | item :: rest =>
            RenderM.forEachApart o binding (item :: rest) (Node.renderAll r o body)) ∧
    (∀ (t : Tables) (iterable : Expr) (body empty : List Stmt) (pos : Position),
      (∀ items, RenderM.forEach o binding items (Stmt.execAll t o body) =
        RenderM.forEachApart o binding items (Stmt.execAll t o body)) ∧
      (Stmt.loop binding iterable body empty pos).exec t o =
        RenderM.evaluation o pos do
          match ← iterable.evalItems t with
          | [] => Stmt.execAll t o empty
          | item :: rest =>
            RenderM.forEachApart o binding (item :: rest) (Stmt.execAll t o body)) ∧
    ∀ (item : Value) (index count : Nat), index < count → count < Nat.pow 2 63 →
      (Frame.ofTurn binding item index count).entries =
        if binding = "forloop" then [(binding, item)]
        else [("forloop", .map [("counter", .ofNat (index + 1)), ("counter0", .ofNat index),
          ("first", .bool (index = 0)), ("last", .bool (index + 1 = count))]),
          (binding, item)] := by
  refine ⟨fun r iterable body empty pos => ?_, fun t iterable body empty pos => ?_, ?_⟩
  · have hforEach :=
      RenderM.forEach_eq_forEachApart (Node.keepsContext_renderAll r o body) o binding
    refine ⟨hforEach, ?_⟩
    rw [Node.render]
    refine congrArg (RenderM.evaluation o _) (bind_congr fun items => ?_)
    cases items with
    | nil => rfl
    | cons item rest => exact hforEach (item :: rest)
  · have hforEach :=
      RenderM.forEach_eq_forEachApart (Stmt.keepsContext_execAll t o body) o binding
    refine ⟨hforEach, ?_⟩
    rw [Stmt.exec]
    refine congrArg (RenderM.evaluation o _) (bind_congr fun items => ?_)
    cases items with
    | nil => rfl
    | cons item rest => exact hforEach (item :: rest)
  · intro item index count hindex hcount
    unfold Frame.ofTurn
    rw [Context.loopRecord_ofNat hindex hcount]
    split <;> rfl

/-- A loop whose variable is called `forloop`, around a loop that asks for its own record: behind
the inner loop the name means the item again. -/
theorem loops_take_turns_apart_nested :
    let items : FilterExpr := ⟨⟨.variable ⟨"x", []⟩, none⟩, []⟩
    let out (p : Path) : Node := .output ⟨⟨.variable p, none⟩, []⟩ none
    let inner : Node := .loop "y" items [out ⟨"forloop", ["first"]⟩, out ⟨"y", []⟩] none none
    let s : Run :=
      { context := Context.empty.set "x" (.array [.string "a", .string "b"]) }
    (Node.loop "forloop" items [inner, out ⟨"forloop", []⟩] none none).render .standard {} s =
        RenderM.evaluation {} .unknown (do
          match ← items.evalItems .standard with
          | [] => Node.renderOpt .standard {} none
          | item :: rest =>
            RenderM.forEachApart {} "forloop" (item :: rest)
              (Node.renderAll .standard {} [inner, out ⟨"forloop", []⟩])) s ∧
      ((Node.loop "forloop" items [inner, out ⟨"forloop", []⟩] none none).render
        .standard {} s).2.output = "trueafalsebatrueafalsebb" ∧
      (Frame.ofTurn "forloop" (.string "b") 1 2).entries = [("forloop", .string "b")] := by
  intro items out inner s
  obtain ⟨hnode, _, hframe⟩ := loops_take_turns_apart {} "forloop"
  refine ⟨?_, by decide +kernel, hframe (.string "b") 1 2 (by decide) (by decide)⟩
  exact congrFun (hnode .standard items [inner, out ⟨"forloop", []⟩] none none).2 s

end Stencil
