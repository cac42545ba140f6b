import Stencil.Grammar.Reader
import Stencil.Proofs.Grammar.Passage

/-!
# What readers read

Two kinds of statements about readers, each with one rule for every way in which readers are put
together. The first is about whatever a reader reads: it reads on from where it is, loses no
character, and gives a value that belongs to the characters. The second is about given characters:
the reader does not fail on them, and reads all of them and nothing of what follows.

## Main definitions

* `Reader.Reads`: what is read, if anything is, belongs to the characters that were read
* `Reader.Takes`: given characters are read, and nothing behind them
* `Reader.Fails`: nothing is read
* `Sequence`: values one behind the other, each with its characters

## Main results

* `Reader.Reads.bind`, `Reader.Takes.bind`: readings follow one another, and so do their characters
* `Reader.Reads.many`, `Reader.Takes.many`: repetition reads a sequence
-/

namespace Stencil

/-- The position of what stands behind some characters of a source. -/
def Position.behind (source : String) (before : List Char) : Position :=
  .ofOffset source (byteCount before)

namespace Grammar

open Scan

/-- Values in a row, where `R before a cs` says that `a` belongs to the characters `cs` that stand
behind `before`. -/
inductive Sequence {α : Type} (R : List Char → α → List Char → Prop) :
    List Char → List α → List Char → Prop
  | nil (before : List Char) : Sequence R before [] []
  | cons {before cs ds : List Char} {a : α} {rest : List α} (head : R before a cs)
      (tail : Sequence R (before ++ cs) rest ds) : Sequence R before (a :: rest) (cs ++ ds)

namespace Reader

variable {α β : Type} {p q : Reader α} {f : α → Reader β}

/-! ## Whatever is read -/

section Reads

/-- If `p` reads anything behind the characters `before` of a source, then it reads on without a
gap, and `P a cs rest` holds of the value, the characters that were read and those that are left. -/
def Reads (source : String) (before : List Char) (p : Reader α)
    (P : α → List Char → List Char → Prop) : Prop :=
  ∀ ahead a j, source.toList = before ++ ahead →
    (p ⟨Cursor.start.past before, ahead⟩).result = some (a, j) →
    ∃ cs, ahead = cs ++ j.rest ∧ j.cursor = Cursor.start.past (before ++ cs) ∧ P a cs j.rest

variable {source : String} {before : List Char} {P P' : α → List Char → List Char → Prop}
  {Q : β → List Char → List Char → Prop}

namespace Reads

theorem imp (h : Reads source before p P) (himp : ∀ a cs rest, P a cs rest → P' a cs rest) :
    Reads source before p P' := by
  intro ahead a j hsource hread
  obtain ⟨cs, hsplit, hcursor, ha⟩ := h ahead a j hsource hread
  exact ⟨cs, hsplit, hcursor, himp a cs j.rest ha⟩

theorem pure {a : α} (h : ∀ rest, P a [] rest) : Reads source before (pure a) P := by
  intro ahead b j _ hread
  obtain ⟨rfl, rfl⟩ := Prod.mk.inj (Option.some.inj hread)
  exact ⟨[], rfl, by rw [List.append_nil], h ahead⟩

/-- The characters of a sequence are those of its parts, one behind the other. -/
theorem bind (hp : Reads source before p P)
    (hf : ∀ a cs, Reads source (before ++ cs) (f a) fun b ds rest =>
      P a cs (ds ++ rest) → Q b (cs ++ ds) rest) :
    Reads source before (p >>= f) Q := by
  intro ahead b j hsource hread
  rw [result_bind, Option.bind_eq_some_iff] at hread
  obtain ⟨⟨a, ⟨cursor, left⟩⟩, hfirst, hnext⟩ := hread
  obtain ⟨cs, rfl, hcursor, ha⟩ := hp ahead a _ hsource hfirst
  -- The second part starts behind what the first one has read.
  dsimp only at hsource hcursor ha hnext
  rw [hcursor] at hnext
  rw [← List.append_assoc] at hsource
  obtain ⟨ds, rfl, hend, hb⟩ := hf a cs left b j hsource hnext
  refine ⟨cs ++ ds, ?_, ?_, hb ha⟩
  · rw [List.append_assoc]
  · rw [hend, List.append_assoc]

theorem orElse (hp : Reads source before p P) (hq : Reads source before q P) :
    Reads source before (p <|> q) P := by
  intro ahead a j hsource hread
  rw [result_orElse, Option.or_eq_some_iff] at hread
  rcases hread with hread | ⟨-, hread⟩
  · exact hp ahead a j hsource hread
  · exact hq ahead a j hsource hread

theorem tracked {rule : Rule} (h : Reads source before p P) :
    Reads source before (p.tracked rule) P := by
  intro ahead a j hsource hread
  rw [result_tracked] at hread
  exact h ahead a j hsource hread

/-- The last part of a sequence may give a value without reading anything. -/
theorem bind_pure {g : α → β} (hp : Reads source before p P)
    (hg : ∀ a cs rest, P a cs rest → Q (g a) cs rest) :
    Reads source before (p >>= fun a => Pure.pure (g a)) Q := by
  refine bind hp fun a cs => pure fun rest ha => ?_
  rw [List.append_nil]
  exact hg a cs rest ha

/-- The position given is that of the byte behind the characters that were passed. -/
theorem bind_position {f : Position → Reader β}
    (hf : Reads source before (f (.behind source before)) Q) :
    Reads source before (position >>= f) Q := by
  intro ahead b j hsource hread
  -- The cursor counts lines and columns as it goes, the position is counted from the source.
  have hpos : (Cursor.start.past before).position = .behind source before := by
    rw [Position.behind, Position.ofOffset, hsource, leading_append]
    exact Cursor.position_past _ _
  rw [result_bind, result_position, Option.bind_some] at hread
  exact hf ahead b j hsource (hpos ▸ hread)

/-- What is read is what the scanner finds in the characters ahead. -/
theorem scanned {scan : Scanner} (hlossless : scan.Lossless) :
    Reads source before (lexeme scan) fun found cs rest =>
      found = cs ∧ scan (cs ++ rest) = some (cs, rest) := by
  intro ahead found j _ hread
  rw [result_lexeme, Option.map_eq_some_iff] at hread
  obtain ⟨⟨cs, rest⟩, hscan, hpair⟩ := hread
  obtain ⟨rfl, rfl⟩ := Prod.mk.inj hpair
  have hsplit := hlossless _ _ _ hscan
  exact ⟨cs, hsplit.symm, by rw [Cursor.past_append], rfl, hsplit ▸ hscan⟩

theorem lexeme {scan : Scanner} {R : List Char → Prop} (hlossless : scan.Lossless)
    (hfinds : scan.Finds R) :
    Reads source before (lexeme scan) fun found cs _ => found = cs ∧ R cs :=
  (scanned hlossless).imp fun _ _ _ h => ⟨h.1, hfinds _ _ _ h.2⟩

theorem opt (h : Reads source before p P) :
    Reads source before (opt p) fun a cs rest =>
      (∃ b, a = some b ∧ P b cs rest) ∨ (a = none ∧ cs = []) := by
  refine .orElse (.bind_pure h fun a cs rest ha => ?_) (.pure fun rest => .inr ⟨rfl, rfl⟩)
  exact .inl ⟨a, rfl, ha⟩

theorem symbol (s : String) : Reads source before (symbol s) fun _ cs _ => cs = s.toList :=
  bind_pure (lexeme (lossless_literal _) (finds_literal _)) fun _ _ _ h => h.2

theorem blanks : Reads source before blanks fun _ cs _ => ∀ c ∈ cs, isSpace c :=
  bind_pure (lexeme lossless_blanks finds_blanks) fun _ _ _ h => h.2

theorem blanks1 : Reads source before blanks1 fun _ cs _ => cs ≠ [] ∧ ∀ c ∈ cs, isSpace c :=
  bind_pure (lexeme lossless_blanks1 (finds_run1 isSpace)) fun _ _ _ h => h.2

section Many

variable {A : List Char → α → List Char → List Char → Prop}
  {B : List Char → List α → List Char → List Char → Prop}

/-- What holds of no values, and is kept by a value in front, holds of repetition. The front value
is followed by the characters of the others, and these by the rest. -/
theorem upTo (h : ∀ before, Reads source before p (A before))
    (hnil : ∀ before rest, B before [] [] rest)
    (hcons : ∀ before a cs found ds rest, A before a cs (ds ++ rest) →
      B (before ++ cs) found ds rest → B before (a :: found) (cs ++ ds) rest)
    (n : Nat) (before : List Char) : Reads source before (p.upTo n) (B before) := by
  induction n generalizing before with
  | zero => exact .pure (hnil before)
  | succ n ih =>
    refine .orElse (.bind (h before) fun a cs => .bind_pure (ih _) ?_) (.pure (hnil before))
    exact fun found ds rest hfound ha => hcons before a cs found ds rest ha hfound

theorem manyWith (h : ∀ before, Reads source before p (A before))
    (hnil : ∀ before rest, B before [] [] rest)
    (hcons : ∀ before a cs found ds rest, A before a cs (ds ++ rest) →
      B (before ++ cs) found ds rest → B before (a :: found) (cs ++ ds) rest)
    (before : List Char) : Reads source before p.many (B before) :=
  fun ahead => upTo h hnil hcons (ahead.length + 1) before ahead

end Many

theorem many {R : List Char → α → List Char → Prop}
    (h : ∀ before, Reads source before p fun a cs _ => R before a cs) (before : List Char) :
    Reads source before p.many fun found cs _ => Sequence R before found cs :=
  manyWith (A := fun before a cs _ => R before a cs)
    (B := fun before found cs _ => Sequence R before found cs) h
    (fun before _ => .nil before) (fun _ _ _ _ _ _ ha hfound => .cons ha hfound) before

end Reads

end Reads

/-! ## Given characters -/

/-- `p` reads exactly the characters `cs`, wherever they stand with `rest` behind them, and gives a
value with the property. -/
def Takes (p : Reader α) (cs rest : List Char) (P : α → Prop) : Prop :=
  ∀ k, ∃ a, (p ⟨k, cs ++ rest⟩).result = some (a, ⟨k.past cs, rest⟩) ∧ P a

/-- `p` reads nothing where the characters `cs` lie ahead. -/
def Fails (p : Reader α) (cs : List Char) : Prop :=
  ∀ k, (p ⟨k, cs⟩).result = none

section Takes

variable {cs ds rest : List Char} {P P' : α → Prop} {Q : β → Prop}

namespace Fails

theorem bind (h : Fails p cs) : Fails (p >>= f) cs := by
  intro k
  rw [result_bind, h k, Option.bind_none]

/-- A sequence fails where its second part does. -/
theorem bind_of_takes (hp : Takes p cs rest P) (hf : ∀ a, P a → Fails (f a) rest) :
    Fails (p >>= f) (cs ++ rest) := by
  intro k
  obtain ⟨a, hread, ha⟩ := hp k
  rw [result_bind, hread, Option.bind_some]
  exact hf a ha (k.past cs)

theorem orElse (hp : Fails p cs) (hq : Fails q cs) : Fails (p <|> q) cs := by
  intro k
  rw [result_orElse, hp k, hq k, Option.or_none]

theorem tracked {rule : Rule} (h : Fails p cs) : Fails (p.tracked rule) cs := by
  intro k
  rw [result_tracked, h k]

theorem lexeme {scan : Scanner} (h : scan cs = none) : Fails (lexeme scan) cs := by
  intro k
  rw [result_lexeme, h, Option.map_none]

theorem symbol {s : String} (h : ¬ s.toList <+: cs) : Fails (symbol s) cs :=
  bind (lexeme (literal_eq_none h))

end Fails

namespace Takes

theorem imp (h : Takes p cs rest P) (himp : ∀ a, P a → P' a) : Takes p cs rest P' := by
  intro k
  obtain ⟨a, hread, ha⟩ := h k
  exact ⟨a, hread, himp a ha⟩

theorem pure {a : α} (h : P a) : Takes (pure a) [] rest P := fun _ => ⟨a, rfl, h⟩

theorem bind (hp : Takes p cs (ds ++ rest) P) (hf : ∀ a, P a → Takes (f a) ds rest Q) :
    Takes (p >>= f) (cs ++ ds) rest Q := by
  intro k
  obtain ⟨a, hread, ha⟩ := hp k
  obtain ⟨b, hnext, hb⟩ := hf a ha (k.past cs)
  refine ⟨b, ?_, hb⟩
  rw [result_bind, List.append_assoc, hread, Option.bind_some, Cursor.past_append]
  exact hnext

/-- The first part of a sequence may succeed without reading anything. -/
theorem bind_nothing (hp : Takes p [] (cs ++ rest) P) (hf : ∀ a, P a → Takes (f a) cs rest Q) :
    Takes (p >>= f) cs rest Q :=
  bind hp hf

/-- The last part of a sequence may succeed without reading anything. -/
theorem bind_last (hp : Takes p cs rest P) (hf : ∀ a, P a → Takes (f a) [] rest Q) :
    Takes (p >>= f) cs rest Q := by
  have h : Takes (p >>= f) (cs ++ []) rest Q := bind hp hf
  rwa [List.append_nil] at h

theorem bind_pure {g : α → β} (hp : Takes p cs rest P) (hg : ∀ a, P a → Q (g a)) :
    Takes (p >>= fun a => Pure.pure (g a)) cs rest Q :=
  bind_last hp fun a ha => pure (hg a ha)

theorem orElse_left (h : Takes p cs rest P) : Takes (p <|> q) cs rest P := by
  intro k
  obtain ⟨a, hread, ha⟩ := h k
  exact ⟨a, by rw [result_orElse, hread, Option.some_or], ha⟩

theorem orElse_right (hp : Fails p (cs ++ rest)) (hq : Takes q cs rest P) :
    Takes (p <|> q) cs rest P := by
  intro k
  obtain ⟨a, hread, ha⟩ := hq k
  exact ⟨a, by rw [result_orElse, hp k, Option.none_or, hread], ha⟩

theorem tracked {rule : Rule} (h : Takes p cs rest P) : Takes (p.tracked rule) cs rest P := by
  intro k
  obtain ⟨a, hread, ha⟩ := h k
  exact ⟨a, by rw [result_tracked, hread], ha⟩

theorem bind_position {f : Position → Reader β} (hf : ∀ pos, Takes (f pos) cs rest Q) :
    Takes (position >>= f) cs rest Q :=
  fun k => hf k.position k

theorem lexeme {scan : Scanner} (h : scan (cs ++ rest) = some (cs, rest)) :
    Takes (lexeme scan) cs rest (· = cs) := by
  intro k
  exact ⟨cs, by rw [result_lexeme, h]; rfl, rfl⟩

theorem opt_some (h : Takes p cs rest P) :
    Takes (opt p) cs rest fun a => ∃ b, a = some b ∧ P b :=
  orElse_left (bind_pure h fun a ha => ⟨a, rfl, ha⟩)

theorem opt_none (h : Fails p rest) : Takes (opt p) [] rest (· = none) :=
  orElse_right (Fails.bind h) (pure rfl)

theorem symbol (s : String) : Takes (symbol s) s.toList rest fun _ => True :=
  bind_pure (lexeme (literal_append _ _)) fun _ _ => trivial

theorem blanks (hcs : ∀ c ∈ cs, isSpace c) (hr : Stops isSpace rest) :
    Takes blanks cs rest fun _ => True :=
  bind_pure (lexeme (blanks_append hcs hr)) fun _ _ => trivial

theorem blanks1 (hne : cs ≠ []) (hcs : ∀ c ∈ cs, isSpace c) (hr : Stops isSpace rest) :
    Takes blanks1 cs rest fun _ => True :=
  bind_pure (lexeme (run1_append hne hcs hr)) fun _ _ => trivial

/-- Items are read one behind the other, up to where the reader fails. What may follow an item is
what an item starts with, or the rest. -/
theorem upTo {γ : Type} {spelled : α → List Char} {g : α → γ} {follow : List Char → Prop}
    {items : List α} {n : Nat} (hn : items.length < n)
    (h : ∀ x ∈ items, ∀ tail, follow tail → Takes p (spelled x) tail (g · = g x))
    (hspelled : ∀ x tail, follow (spelled x ++ tail)) (hrest : follow rest)
    (hfails : Fails p rest) :
    Takes (p.upTo n) (items.flatMap spelled) rest (·.map g = items.map g) := by
  induction items generalizing n with
  | nil =>
    obtain ⟨m, rfl⟩ := Nat.exists_eq_succ_of_ne_zero (Nat.ne_of_gt hn)
    exact orElse_right (Fails.bind hfails) (pure rfl)
  | cons x items ih =>
    obtain ⟨m, rfl⟩ := Nat.exists_eq_succ_of_ne_zero (Nat.ne_of_gt (Nat.zero_lt_of_lt hn))
    obtain ⟨hx, hitems⟩ := List.forall_mem_cons.mp h
    -- Behind the first item stands the next one, or the rest if it was the last.
    have hnext : follow (items.flatMap spelled ++ rest) := by
      cases items with
      | nil => exact hrest
      | cons y items =>
        rw [List.flatMap_cons, List.append_assoc]
        exact hspelled y _
    refine orElse_left (bind (hx _ hnext) fun a ha => ?_)
    refine bind_pure (ih (Nat.lt_of_succ_lt_succ hn) hitems) fun found hfound => ?_
    rw [List.map_cons, List.map_cons, ha, hfound]

theorem many {γ : Type} {spelled : α → List Char} {g : α → γ} {follow : List Char → Prop}
    {items : List α} (hne : ∀ x, spelled x ≠ [])
    (h : ∀ x ∈ items, ∀ tail, follow tail → Takes p (spelled x) tail (g · = g x))
    (hspelled : ∀ x tail, follow (spelled x ++ tail)) (hrest : follow rest)
    (hfails : Fails p rest) :
    Takes p.many (items.flatMap spelled) rest (·.map g = items.map g) := by
  -- Repetition has fuel for one item per character ahead.
  have hlength : items.length ≤ (items.flatMap spelled).length := length_le_length_flatMap hne
  refine fun k => upTo ?_ h hspelled hrest hfails k
  rw [List.length_append]
  omega

end Takes

end Takes

end Reader

end Grammar

end Stencil
