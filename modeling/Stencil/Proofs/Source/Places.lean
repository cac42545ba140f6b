import Mathlib.Data.List.DropRight
import Stencil.Proofs.Source.Boundary
import Stencil.Proofs.Source.Lines

/-!
# Places and their positions

Every boundary between two characters of a source, and each of its ends, is a place. Characters
that are passed move a position forward, by a column or to the next line. So a place behind another
one has a greater position, and no two places have the same.

## Main definitions

* the order of positions: by line, and in a line by column
* `charsBefore i`: the characters before a place

## Main results

* `Position.lt_foldl_advance`: passing characters moves a position forward
* `Position.ofOffset_offset`: the position of a place is behind the characters before it
* `positions_identify_places`: places are told apart by their positions
-/

namespace Stencil

namespace Position

/-! ## The order of positions -/

/-- Positions are ordered by line, and in a line by column. -/
instance : LT Position where
  lt p q := p.line < q.line ∨ p.line = q.line ∧ p.column < q.column

variable {p q r : Position}

theorem lt_iff : p < q ↔ p.line < q.line ∨ p.line = q.line ∧ p.column < q.column :=
  Iff.rfl

theorem lt_trans (hpq : p < q) (hqr : q < r) : p < r := by
  rw [lt_iff] at hpq hqr ⊢
  omega

theorem lt_asymm (hpq : p < q) : ¬q < p := by
  rw [lt_iff] at hpq ⊢
  omega

/-- A character that is passed moves the position forward. -/
theorem lt_advance (p : Position) (c : Char) : p < p.advance c := by
  rw [advance]
  split
  · exact .inl (Nat.lt_succ_self p.line)
  · exact .inr ⟨rfl, Nat.lt_succ_self p.column⟩

/-- **Passing characters moves a position forward.** -/
theorem lt_foldl_advance (p : Position) {cs : List Char} (h : cs ≠ []) :
    p < cs.foldl advance p := by
  induction cs generalizing p with
  | nil => exact absurd rfl h
  | cons c cs ih =>
    cases cs with
    | nil => exact p.lt_advance c
    | cons d ds => exact lt_trans (p.lt_advance c) (ih (p.advance c) (List.cons_ne_nil d ds))

theorem after_lt_after_append (cs : List Char) {ds : List Char} (h : ds ≠ []) :
    after cs < after (cs ++ ds) := by
  unfold after
  rw [List.foldl_append]
  exact lt_foldl_advance _ h

end Position

/-! ## Places -/

section Places

variable {source : String}

/-- The characters of a source before a place. -/
def charsBefore (i : source.Pos) : List Char :=
  (source.sliceTo i).copy.toList

theorem charsBefore_append (i : source.Pos) :
    charsBefore i ++ (source.sliceFrom i).copy.toList = source.toList := by
  rw [charsBefore, ← String.toList_append, ← i.splits.eq_append]

/-- The offset of a place counts the bytes before it. -/
theorem byteCount_charsBefore (i : source.Pos) : byteCount (charsBefore i) = i.offset.byteIdx := by
  rw [charsBefore, byteCount_toList, i.splits.offset_eq_rawEndPos]
  rfl

/-- There are characters between a place and a place behind it. -/
theorem exists_charsBefore_append {i j : source.Pos} (h : i < j) :
    ∃ between, between ≠ [] ∧ charsBefore i ++ between = charsBefore j := by
  have hbytes : byteCount (charsBefore i) < byteCount (charsBefore j) := by
    rw [byteCount_charsBefore, byteCount_charsBefore]
    exact String.Pos.lt_iff.mp h
  rcases List.prefix_or_prefix_of_prefix ⟨_, charsBefore_append i⟩ ⟨_, charsBefore_append j⟩ with
    ⟨between, hj⟩ | ⟨between, hi⟩
  · refine ⟨between, ?_, hj⟩
    rintro rfl
    rw [← hj, List.append_nil] at hbytes
    exact Nat.lt_irrefl _ hbytes
  · -- Otherwise the place in front would have more bytes before it.
    rw [← hi, byteCount_append] at hbytes
    omega

namespace Position

theorem ofOffset_offset (i : source.Pos) :
    ofOffset source i.offset.byteIdx = after (charsBefore i) := by
  rw [← byteCount_charsBefore, ofOffset_byteCount (charsBefore_append i).symm]

theorem ofOffset_lt_ofOffset {i j : source.Pos} (h : i < j) :
    ofOffset source i.offset.byteIdx < ofOffset source j.offset.byteIdx := by
  obtain ⟨between, hne, hj⟩ := exists_charsBefore_append h
  rw [ofOffset_offset, ofOffset_offset, ← hj]
  exact after_lt_after_append (charsBefore i) hne

/-- The order of places is that of their positions. -/
theorem ofOffset_lt_ofOffset_iff {i j : source.Pos} :
    ofOffset source i.offset.byteIdx < ofOffset source j.offset.byteIdx ↔ i < j := by
  refine ⟨fun h => ?_, ofOffset_lt_ofOffset⟩
  rcases Nat.lt_trichotomy i.offset.byteIdx j.offset.byteIdx with hlt | heq | hgt
  · exact String.Pos.lt_iff.mpr hlt
  · rw [heq] at h
    exact absurd h (lt_asymm h)
  · exact absurd (ofOffset_lt_ofOffset (String.Pos.lt_iff.mpr hgt)) (lt_asymm h)

end Position

end Places

/-! ## Lines and columns -/

theorem lastLine_concat {c : Char} (hc : c ≠ '\n') (cs : List Char) :
    lastLine (cs ++ [c]) = lastLine cs ++ [c] := by
  induction cs with
  | nil => exact lastLine_of_not_mem (mt List.mem_singleton.mp (Ne.symm hc))
  | cons d cs ih =>
    have hmem : '\n' ∈ d :: (cs ++ [c]) ↔ '\n' ∈ d :: cs := by simp [Ne.symm hc]
    rw [List.cons_append, lastLine, lastLine]
    by_cases h : '\n' ∈ d :: cs
    · rw [if_pos h, if_pos (hmem.mpr h), ih]
    · rw [if_neg h, if_neg (mt hmem.mp h), List.cons_append]

/-- What stands behind the last newline goes back to it from the end. -/
theorem lastLine_eq_rtakeWhile (cs : List Char) : lastLine cs = cs.rtakeWhile (· != '\n') := by
  induction cs using List.reverseRecOn with
  | nil => rfl
  | append_singleton cs c ih =>
    by_cases hc : c = '\n'
    · subst hc
      rw [lastLine_concat_newline, List.rtakeWhile_concat_neg _ _ _ (by simp)]
    · rw [lastLine_concat hc, ih, List.rtakeWhile_concat_pos _ _ _ (by simpa using hc)]

/-- The piece behind the last newline that was passed starts with the characters passed since. -/
theorem getElem?_cut_newline (before ahead : List Char) :
    ∃ rest, (Text.cut '\n' (before ++ ahead))[before.count '\n']? =
      some (lastLine before ++ rest) := by
  induction before with
  | nil =>
    obtain ⟨piece, pieces, hcut⟩ := List.exists_cons_of_ne_nil (Text.cut_ne_nil '\n' ahead)
    refine ⟨piece, ?_⟩
    rw [List.nil_append, hcut, List.count_nil, List.getElem?_cons_zero, lastLine, List.nil_append]
  | cons c before ih =>
    obtain ⟨rest, ih⟩ := ih
    by_cases hc : c = '\n'
    · subst hc
      refine ⟨rest, ?_⟩
      rw [List.cons_append, Text.cut, if_pos rfl, List.count_cons_self, List.getElem?_cons_succ, ih,
        lastLine, if_pos List.mem_cons_self]
    obtain ⟨piece, pieces, hbefore, hcut⟩ := Text.cut_cons_of_ne hc (before ++ ahead)
    rw [hbefore] at ih
    rw [List.cons_append, hcut, List.count_cons_of_ne hc]
    by_cases hmem : '\n' ∈ before
    · -- The character is in an earlier line.
      obtain ⟨k, hk⟩ := Nat.exists_eq_add_one_of_ne_zero
        (Nat.ne_of_gt (List.count_pos_iff.mpr hmem))
      rw [hk, List.getElem?_cons_succ] at ih
      refine ⟨rest, ?_⟩
      rw [hk, List.getElem?_cons_succ, ih, lastLine, if_pos (List.mem_cons_of_mem c hmem)]
    · -- This is the first line, and the character is in it.
      rw [List.count_eq_zero.mpr hmem, List.getElem?_cons_zero] at ih ⊢
      rw [lastLine_of_not_mem hmem] at ih
      refine ⟨rest, ?_⟩
      rw [lastLine_of_not_mem (by simp [Ne.symm hc, hmem]), Option.some.inj ih, List.cons_append]

theorem exists_field_of_place {source : String} (i : source.Pos) :
    ∃ line, (Text.fields '\n' source)[(charsBefore i).count '\n']? = some line ∧
      (lastLine (charsBefore i)).length ≤ line.length := by
  obtain ⟨rest, hrest⟩ := getElem?_cut_newline (charsBefore i) (source.sliceFrom i).copy.toList
  refine ⟨.ofList (lastLine (charsBefore i) ++ rest), ?_, ?_⟩
  · rw [Text.fields, ← charsBefore_append i, List.getElem?_map, hrest, Option.map_some]
  · rw [String.length_ofList, List.length_append]
    exact Nat.le_add_right _ _

/-- **Positions identify places.** Of two places the one in front has the lesser position. The line
of a place is one more than the number of newlines before it, and its column one more than the
number of characters since the last of these. So no place has the position that stands for none.
Line and column are never beyond what the source has: there is such a line in it, and the column is
at most that behind its last character. -/
theorem positions_identify_places {source : String} (i j : source.Pos) :
    let p := Position.ofOffset source i.offset.byteIdx
    let q := Position.ofOffset source j.offset.byteIdx
    (p < q ↔ i < j) ∧
    p.line = (charsBefore i).count '\n' + 1 ∧
    p.column = ((charsBefore i).rtakeWhile (· != '\n')).length + 1 ∧
    p ≠ Position.unknown ∧
    ∃ line, (Text.fields '\n' source)[p.line - 1]? = some line ∧ p.column ≤ line.length + 1 := by
  intro p q
  have hplace : p = ⟨(charsBefore i).count '\n' + 1, (lastLine (charsBefore i)).length + 1⟩ := by
    rw [← Position.after_eq, ← Position.ofOffset_offset]
  have hindex : p.line - 1 = (charsBefore i).count '\n' := by
    rw [hplace, Nat.add_sub_cancel]
  obtain ⟨line, hline, hlength⟩ := exists_field_of_place i
  refine ⟨Position.ofOffset_lt_ofOffset_iff, ?_, ?_, ?_, line, ?_, ?_⟩
  · rw [hplace]
  · rw [hplace, lastLine_eq_rtakeWhile]
  · rw [hplace]
    exact fun hunknown => Nat.succ_ne_zero _ (congrArg Position.line hunknown)
  · rw [hindex, hline]
  · rw [hplace]
    exact Nat.succ_le_succ hlength

-- Right before and right behind a newline, with a character of two bytes in front.
example : Position.ofOffset "é\nb" 2 = ⟨1, 2⟩ ∧ Position.ofOffset "é\nb" 3 = ⟨2, 1⟩ := by decide

end Stencil
