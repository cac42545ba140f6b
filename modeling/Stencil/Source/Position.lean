/-!
# Positions in a source

A place in a source is known by its byte offset, and shown by its line and column. Lines end at a
newline; lines and columns count from one, and columns count characters. They are numbers without a
bound: kept in words of 32 bits, they are the same for sources of fewer than `2 ^ 32 - 1` bytes.

## Main definitions

* `Position`: a line and a column
* `Position.after`: the position behind some characters
* `Position.ofOffset`: the position of a byte offset
* `Cursor`: a byte offset together with its position
* `Span`: a stretch of a source between two byte offsets

## Main results

* `Cursor.position_past`, `Cursor.offset_past`: where a cursor is behind some characters
-/

namespace Stencil

/-- A line and a column, counted from one. -/
structure Position where
  line : Nat
  column : Nat
deriving DecidableEq, Repr

namespace Position

/-- The position of what stands nowhere in a source. -/
def unknown : Position := ⟨0, 0⟩

/-- The position of the first character of a source. -/
def start : Position := ⟨1, 1⟩

/-- Whether this is the position of what stands nowhere in a source. -/
def isUnknown (p : Position) : Bool :=
  p = unknown

/-- The position behind a character that stands at `p`. -/
def advance (p : Position) (c : Char) : Position :=
  if c = '\n' then ⟨p.line + 1, 1⟩ else ⟨p.line, p.column + 1⟩

/-- The position behind some characters at the start of a source. -/
def after (cs : List Char) : Position :=
  cs.foldl advance start

/-- Line and column with a colon between them. -/
def text (p : Position) : String :=
  toString p.line ++ ":" ++ toString p.column

end Position

/-- The leading characters whose first byte lies before the byte offset. -/
def leading (offset : Nat) : List Char → List Char
  | [] => []
  | c :: cs => if offset = 0 then [] else c :: leading (offset - c.utf8Size) cs

/-- The number of bytes that characters take up. -/
def byteCount : List Char → Nat
  | [] => 0
  | c :: cs => c.utf8Size + byteCount cs

/-- The leading characters before the end of some characters are these. -/
theorem leading_append (cs rest : List Char) : leading (byteCount cs) (cs ++ rest) = cs := by
  induction cs with
  | nil => cases rest <;> rfl
  | cons c cs ih =>
    have hc := c.utf8Size_pos
    rw [List.cons_append, leading, byteCount, if_neg (by omega), Nat.add_sub_cancel_left, ih]

/-- The position of a byte offset: behind all characters that start before it. -/
def Position.ofOffset (source : String) (offset : Nat) : Position :=
  Position.after (leading offset source.toList)

/-- A place in a source: its byte offset and its position. -/
structure Cursor where
  offset : Nat
  position : Position
deriving DecidableEq, Repr

namespace Cursor

/-- The place of the first character. -/
def start : Cursor := ⟨0, Position.start⟩

/-- The place behind a character. -/
def advance (k : Cursor) (c : Char) : Cursor :=
  ⟨k.offset + c.utf8Size, k.position.advance c⟩

/-- The place behind some characters. -/
def past (k : Cursor) (cs : List Char) : Cursor :=
  cs.foldl advance k

@[simp] theorem past_nil (k : Cursor) : k.past [] = k := rfl

@[simp] theorem past_cons (k : Cursor) (c : Char) (cs : List Char) :
    k.past (c :: cs) = (k.advance c).past cs := rfl

@[simp] theorem past_append (k : Cursor) (cs ds : List Char) :
    k.past (cs ++ ds) = (k.past cs).past ds := List.foldl_append

/-- The position of a cursor is the position behind the characters that were passed. -/
theorem position_past (k : Cursor) (cs : List Char) :
    (k.past cs).position = cs.foldl Position.advance k.position := by
  induction cs generalizing k with
  | nil => rfl
  | cons c cs ih => rw [past_cons, ih, List.foldl_cons]; rfl

/-- Characters are passed byte by byte. -/
theorem offset_past (k : Cursor) (cs : List Char) :
    (k.past cs).offset = k.offset + byteCount cs := by
  induction cs generalizing k with
  | nil => rfl
  | cons c cs ih => rw [past_cons, ih]; simp only [advance, byteCount]; omega

end Cursor

/-- The bytes of a source from `start` up to, and without, `stop`. -/
structure Span where
  start : Nat
  stop : Nat
deriving DecidableEq, Repr

namespace Span

/-- The least span that contains both. -/
def merge (a b : Span) : Span :=
  ⟨min a.start b.start, max a.stop b.stop⟩

end Span

end Stencil
