import Stencil.Bindings
import Stencil.Path
import Stencil.Value

/-!
# Contexts

Variables live in frames that are stacked on each other. An inner frame hides the variables of the
frames below it, and is gone when it is popped; the bottom frame stays.

## Main definitions

* `Context`: a stack of frames
* `Context.get?`, `Context.set`, `Context.push`, `Context.pop`
* `Context.find?`: the value that a path leads to
* `Context.bindItem`: the variables of one turn of a loop

## Main results

* `Context.get?_set`: setting a variable changes that variable only
* `Context.loopRecord_ofNat`: what the turns of a loop are counted as
-/

namespace Stencil

/-- The variables of one level. -/
abbrev Frame := Bindings Value

/-- A stack of frames: the bottom frame, and the frames above it, the innermost first. -/
structure Context where
  inner : List Frame
  bottom : Frame

namespace Context

/-- No variable is set. -/
def empty : Context := ⟨[], .empty⟩

instance : Inhabited Context := ⟨empty⟩

/-- The number of frames. -/
def depth (c : Context) : Nat :=
  c.inner.length + 1

/-- A new frame on top. -/
def push (c : Context) : Context :=
  { c with inner := .empty :: c.inner }

/-- The innermost frame is gone, unless it is the bottom frame. -/
def pop (c : Context) : Context :=
  { c with inner := c.inner.tail }

/-- Set a variable in the innermost frame. -/
def set (c : Context) (name : String) (v : Value) : Context :=
  match c.inner with
  | [] => { c with bottom := c.bottom.insert name v }
  | frame :: rest => { c with inner := frame.insert name v :: rest }

/-- The value of a variable in the innermost frame that has it. -/
def get? (c : Context) (name : String) : Option Value :=
  (c.inner.findSome? (·.get? name)).or (c.bottom.get? name)

/-- The value that a path leads to. -/
def find? (c : Context) (p : Path) : Option Value :=
  (c.get? p.head).bind (Value.descend? p.rest)

/-- The context with the given frames, the bottom frame first. -/
def ofFrames : List Frame → Context
  | [] => empty
  | bottom :: rest => ⟨rest.reverse, bottom⟩

/-- What a loop body can know about its turn: `index` of `count`, counted from zero in words. -/
def loopRecord (index count : UInt64) : Value :=
  .ofEntries [("counter", .ofWord (index + 1)), ("counter0", .ofWord index),
    ("first", .bool (index = 0)), ("last", .bool (index + 1 = count))]

/-- The entries of the record of a turn are given in the order of their keys. -/
theorem loopRecord_eq (index count : UInt64) :
    loopRecord index count =
      .map [("counter", .ofWord (index + 1)), ("counter0", .ofWord index),
        ("first", .bool (index = 0)), ("last", .bool (index + 1 = count))] := by
  have hkeys : ["counter", "counter0", "first", "last"].Pairwise (· < ·) := by decide
  exact congrArg Value.map (Value.sortEntries_of_keysSorted hkeys)

/-- The variables of one turn of a loop: `forloop`, and then the variable of the loop, which
therefore wins if it has that name too. -/
def bindItem (c : Context) (binding : String) (item : Value) (index count : UInt64) : Context :=
  (c.set "forloop" (loopRecord index count)).set binding item

/-- A loop of fewer than `2 ^ 63` turns counts them in whole numbers. -/
theorem loopRecord_ofNat {index count : Nat} (hi : index < count) (hc : count < Nat.pow 2 63) :
    loopRecord (.ofNat index) (.ofNat count) =
      .map [("counter", .ofNat (index + 1)), ("counter0", .ofNat index),
        ("first", .bool (index = 0)), ("last", .bool (index + 1 = count))] := by
  have hbound : Nat.pow 2 63 = 9223372036854775808 := rfl
  -- Words below the bound are equal only if what they count is.
  have eq_iff (m n : Nat) (hm : m < Nat.pow 2 63) (hn : n < Nat.pow 2 63) :
      UInt64.ofNat m = UInt64.ofNat n ↔ m = n := by
    rw [← UInt64.toNat_inj, UInt64.toNat_ofNat', UInt64.toNat_ofNat',
      Nat.mod_eq_of_lt (by omega), Nat.mod_eq_of_lt (by omega)]
  have hsucc : UInt64.ofNat index + 1 = UInt64.ofNat (index + 1) := UInt64.ofNat_add index 1 |>.symm
  have hzero : (UInt64.ofNat index = 0) = (index = 0) :=
    propext (eq_iff index 0 (by omega) (by omega))
  have hlast : (UInt64.ofNat (index + 1) = UInt64.ofNat count) = (index + 1 = count) :=
    propext (eq_iff (index + 1) count (by omega) hc)
  simp only [loopRecord_eq, hsucc, hzero, hlast,
    Value.ofWord_ofNat (show index < Nat.pow 2 63 by omega),
    Value.ofWord_ofNat (show index + 1 < Nat.pow 2 63 by omega)]

/-- What is pushed is popped again. -/
@[simp] theorem pop_push (c : Context) : c.push.pop = c := rfl

/-- A variable that is set in a pushed frame is gone with that frame. -/
@[simp] theorem pop_set_push (c : Context) (name : String) (v : Value) :
    (c.push.set name v).pop = c := rfl

@[simp] theorem depth_push (c : Context) : c.push.depth = c.depth + 1 := rfl

@[simp] theorem depth_set (c : Context) (name : String) (v : Value) :
    (c.set name v).depth = c.depth := by
  obtain ⟨inner, bottom⟩ := c
  cases inner <;> rfl

/-- A new frame hides nothing. -/
@[simp] theorem get?_push (c : Context) (name : String) : c.push.get? name = c.get? name := rfl

/-- Setting a variable changes the value of that variable, and nothing else. -/
@[simp] theorem get?_set (c : Context) (name other : String) (v : Value) :
    (c.set name v).get? other = if other = name then some v else c.get? other := by
  obtain ⟨inner, bottom⟩ := c
  cases inner with
  | nil => simp [set, get?]
  | cons frame rest =>
    by_cases h : other = name <;> simp [set, get?, List.findSome?_cons, h]

end Context

end Stencil
