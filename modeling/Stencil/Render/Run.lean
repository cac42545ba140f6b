import Stencil.Filter.Registry
import Stencil.Render.Context
import Stencil.Render.Options
import Stencil.Text.Character

/-!
# Runs

Rendering is a sequence of steps, each of which changes the state of the run and may fail. What a
step did before it failed stays done: the output written so far is there, and so are the counts.
These are numbers without a bound: kept in words of 64 bits, they are the same up to `2 ^ 64 - 1`.

## Main definitions

* `Run`: output, counts, filter calls and variables of a rendering
* `RenderM`: a step of a rendering
* `RenderM.located`: errors of a step are given a position
* `RenderM.tick`, `RenderM.evaluation`: one more evaluation; `RenderM.turn`: one more turn of a loop
* `RenderM.emit`, `RenderM.append`: output
* `Run.beginCapture`, `Run.endCapture`: output that is put aside and restored
* `RenderM.captured`: the output of a step, taken out of the output of the run
* `RenderM.forEach`: a step for every item, with the variables of its turn
* `Filter.call`, `Registry.call`: filters at work
-/

namespace Stencil

/-- A filter at work: its name, the value and the argument. -/
structure Call where
  name : String
  value : Value
  arg : Option Value

/-- The state of a rendering. -/
structure Run where
  /-- What has been written. -/
  output : String := ""
  /-- How many nodes have been evaluated. -/
  evaluations : Nat := 0
  /-- How many turns loops have taken. -/
  iterations : Nat := 0
  /-- Whether there was a call to stop. -/
  cancelled : Bool := false
  /-- The filters that were at work, the latest first. -/
  calls : List Call := []
  /-- The variables. -/
  context : Context := .empty

namespace Run

/-- The output is put aside, and what follows is written to an empty one. -/
def beginCapture (s : Run) : String × Run :=
  (s.output, { s with output := "" })

/-- What was written since the output `saved` was put aside; that output is restored. -/
def endCapture (s : Run) (saved : String) : String × Run :=
  (s.output, { s with output := saved })

end Run

/-- A step of a rendering. -/
def RenderM (α : Type) : Type :=
  Run → Except RenderError α × Run

namespace RenderM

variable {α β : Type}

instance : Monad RenderM where
  pure a := fun s => (.ok a, s)
  bind x f := fun s =>
    match x s with
    | (.ok a, t) => f a t
    | (.error e, t) => (.error e, t)

/-- A result that leaves the run as it is. -/
def ofExcept (r : Except RenderError α) : RenderM α := fun s =>
  (r, s)

/-- Change the run. -/
def modify (f : Run → Run) : RenderM Unit := fun s =>
  (.ok (), f s)

/-- A step whose errors are at `pos`, unless they have a position. -/
def located (pos : Position) (x : RenderM α) : RenderM α := fun s =>
  match x s with
  | (.ok a, t) => (.ok a, t)
  | (.error e, t) => (.error (e.orPos pos), t)

/-- The value of a variable that has to exist. -/
def resolve (p : Path) : RenderM Value := fun s =>
  match s.context.find? p with
  | some v => (.ok v, s)
  | none => (.error { fault := .missingVariable p.key }, s)

/-- The value of a variable, or the fallback if there is no such variable. -/
def resolveOr (p : Path) (fallback : Option Value) : RenderM Value := fun s =>
  (.ok ((s.context.find? p).getD (fallback.getD .nothing)), s)

/-- One more evaluation. -/
def tick (o : Options) : RenderM Unit := fun s =>
  (o.admitsEvaluation (s.evaluations + 1) s.cancelled,
    { s with evaluations := s.evaluations + 1 })

/-- A step that counts as an evaluation. Its errors are at `pos`, unless they have a position. -/
def evaluation (o : Options) (pos : Position) (x : RenderM Unit) : RenderM Unit :=
  located pos do
    tick o
    x

/-- One more turn of a loop. -/
def turn (o : Options) : RenderM Unit := fun s =>
  (o.admitsIteration (s.iterations + 1), { s with iterations := s.iterations + 1 })

/-- Write a text as it is. -/
def append (text : String) : RenderM Unit :=
  modify fun s => { s with output := s.output ++ text }

/-- Write a value, escaped if the options ask for it. -/
def emit (o : Options) (v : Value) : RenderM Unit :=
  append (if o.autoescape then Text.escape v.text else v.text)

/-- A step whose output is its result, and not part of the output of the run. -/
def captured (x : RenderM Unit) : RenderM String := fun s =>
  let (saved, s) := s.beginCapture
  let (result, s) := x s
  let (text, s) := s.endCapture saved
  (result.map fun _ => text, s)

/-- A step with a frame of its own. -/
def inFrame (x : RenderM α) : RenderM α := fun s =>
  let (result, t) := x { s with context := s.context.push }
  (result, { t with context := t.context.pop })

/-- The step `body` for every item, where the first item has the given index of `count`. -/
def turns (o : Options) (binding : String) (body : RenderM Unit) (count : Nat) :
    Nat → List Value → RenderM Unit
  | _, [] => return ()
  | index, item :: rest => do
    turn o
    modify fun s =>
      { s with context := s.context.bindItem binding item (.ofNat index) (.ofNat count) }
    body
    turns o binding body count (index + 1) rest

/-- The step `body` for every item, all in one frame that is gone afterwards. -/
def forEach (o : Options) (binding : String) (items : List Value) (body : RenderM Unit) :
    RenderM Unit :=
  inFrame (turns o binding body items.length 0 items)

/-- The items that a loop runs through. -/
def itemsOf (v : Value) : RenderM (List Value) :=
  match v.items? with
  | some items => return items
  | none => ofExcept (.error { fault := .notIterable v.typeName })

section Apply

variable (x : RenderM α) (f : α → RenderM β) (s : Run)

@[simp] theorem pure_apply (a : α) : (pure a : RenderM α) s = (.ok a, s) := rfl

theorem bind_apply :
    (x >>= f) s =
      match x s with
      | (.ok a, t) => f a t
      | (.error e, t) => (.error e, t) := rfl

/-- A sequence goes on with the second step where the first one ends well. -/
theorem bind_apply_ok {a : α} {t : Run} (h : x s = (.ok a, t)) : (x >>= f) s = f a t := by
  rw [bind_apply, h]

/-- A sequence fails where its first step does. -/
theorem bind_apply_error {e : RenderError} {t : Run} (h : x s = (.error e, t)) :
    (x >>= f) s = (.error e, t) := by
  rw [bind_apply, h]

/-- A sequence succeeds only if both of its steps do. -/
theorem bind_eq_ok {x : RenderM α} {f : α → RenderM β} {s u : Run} {b : β}
    (h : (x >>= f) s = (.ok b, u)) : ∃ a t, x s = (.ok a, t) ∧ f a t = (.ok b, u) := by
  rcases hx : x s with ⟨e | a, t⟩
  · rw [bind_apply_error x f s hx] at h
    cases h
  · rw [bind_apply_ok x f s hx] at h
    exact ⟨a, t, rfl, h⟩

instance : LawfulMonad RenderM :=
  LawfulMonad.mk' RenderM
    (fun x => by
      funext s
      change (match x s with | (.ok a, t) => (.ok a, t) | (.error e, t) => (.error e, t)) = x s
      rcases x s with ⟨_ | _, _⟩ <;> rfl)
    (fun _ _ => rfl)
    (fun x f g => by
      funext s
      rw [bind_apply, bind_apply, bind_apply]
      rcases x s with ⟨_ | _, _⟩ <;> rfl)

@[simp] theorem ofExcept_apply (r : Except RenderError α) : ofExcept r s = (r, s) := rfl

@[simp] theorem modify_apply (g : Run → Run) : modify g s = (.ok (), g s) := rfl

@[simp] theorem append_apply (text : String) :
    append text s = (.ok (), { s with output := s.output ++ text }) := rfl

/-- The output of a step that fails is lost; either way the output of the run is as before. -/
theorem captured_apply (x : RenderM Unit) :
    captured x s =
      match x { s with output := "" } with
      | (.ok (), t) => (.ok t.output, { t with output := s.output })
      | (.error e, t) => (.error e, { t with output := s.output }) := by
  simp only [captured, Run.beginCapture, Run.endCapture]
  rcases x { s with output := "" } with ⟨_ | _, _⟩ <;> rfl

/-- A position changes errors only. -/
theorem located_result (pos : Position) :
    (located pos x s).1 = (x s).1.mapError (·.orPos pos) := by
  simp only [located]
  rcases x s with ⟨_ | _, _⟩ <;> rfl

/-- A step that succeeds does so without its position. -/
theorem located_eq_ok {pos : Position} {x : RenderM α} {s t : Run} {a : α}
    (h : located pos x s = (.ok a, t)) : x s = (.ok a, t) := by
  rw [located] at h
  split at h
  · next hx => rw [hx, h]
  · cases h

/-- A position changes no state. -/
@[simp] theorem located_state (pos : Position) : (located pos x s).2 = (x s).2 := by
  simp only [located]
  split <;> simp_all

end Apply

end RenderM

/-- A filter at work. -/
def Filter.call (f : Filter) (v : Value) (arg : Option Value) : RenderM Value := fun s =>
  let reply := f.apply v arg
  (reply.result,
    { s with
      cancelled := s.cancelled || reply.cancels
      calls := ⟨f.name, v, arg⟩ :: s.calls })

/-- The filter of a call at work, once the argument is checked. -/
def Registry.call (r : Registry) (name : String) (v : Value) (arg : Option Value) :
    RenderM Value :=
  match r.select name arg.isSome with
  | .ok f => f.call v arg
  | .error e => RenderM.ofExcept (.error e)

end Stencil
