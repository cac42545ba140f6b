import Stencil.Proofs.Text.Fields
import Stencil.Source.Diagnostic

/-!
# Lines of a source

A place in a source divides its line in two: the characters behind the last newline before the
place, and the characters from the place on up to the end of the line. The position of a place
counts the newlines and the first part, and the line that a diagnostic shows is both parts
together.

## Main definitions

* `lastLine`: the characters behind the last newline
* `restOfLine`: the characters up to the first line end

## Main results

* `Position.after_eq`: a position counts newlines, and characters behind the last of them
* `Diagnostic.sourceLine_eq`: the line of a place is what stands before and behind it
-/

namespace Stencil

/-- The characters behind the last newline. -/
def lastLine : List Char → List Char
  | [] => []
  | c :: cs => if '\n' ∈ c :: cs then lastLine cs else c :: cs

/-- The characters up to the first line end: a newline, or a carriage return right before one. -/
def restOfLine : List Char → List Char
  | [] => []
  | c :: cs =>
    if c = '\n' ∨ c = '\r' ∧ cs.head? = some '\n' then [] else c :: restOfLine cs

theorem lastLine_of_not_mem {cs : List Char} (h : '\n' ∉ cs) : lastLine cs = cs := by
  cases cs with
  | nil => rfl
  | cons c cs => rw [lastLine, if_neg h]

theorem newline_not_mem_lastLine (cs : List Char) : '\n' ∉ lastLine cs := by
  induction cs with
  | nil => exact List.not_mem_nil
  | cons c cs ih =>
    rw [lastLine]
    split
    · exact ih
    · assumption

/-- Right behind a newline the line is empty. -/
theorem lastLine_concat_newline (cs : List Char) : lastLine (cs ++ ['\n']) = [] := by
  induction cs with
  | nil => rfl
  | cons c cs ih => rw [List.cons_append, lastLine, if_pos (by simp), ih]

theorem newline_not_mem_restOfLine (cs : List Char) : '\n' ∉ restOfLine cs := by
  induction cs with
  | nil => exact List.not_mem_nil
  | cons c cs ih =>
    rw [restOfLine]
    split
    · exact List.not_mem_nil
    · next hc =>
      rintro (_ | ⟨_, hmem⟩)
      · exact hc (.inl rfl)
      · exact ih hmem

theorem ne_newline_of_restOfLine_ne_nil {c : Char} {cs : List Char}
    (h : restOfLine (c :: cs) ≠ []) : c ≠ '\n' := by
  rintro rfl
  exact h (if_pos (.inl rfl))

/-- The line goes on in front of what is not yet its end. A carriage return before a newline would
belong to the line end, so something of the line has to follow. -/
theorem restOfLine_append {cs ahead : List Char} (hcs : '\n' ∉ cs) (h : restOfLine ahead ≠ []) :
    restOfLine (cs ++ ahead) = cs ++ restOfLine ahead := by
  induction cs with
  | nil => rfl
  | cons c cs ih =>
    obtain ⟨hc, hcs⟩ := List.ne_and_not_mem_of_not_mem_cons hcs
    -- No newline comes next, so not even a carriage return ends the line here.
    have hnext : (cs ++ ahead).head? ≠ some '\n' := by
      cases cs with
      | cons d ds =>
        rintro ⟨⟩
        exact hcs List.mem_cons_self
      | nil =>
        cases ahead with
        | nil => exact nofun
        | cons d ds => exact fun heq => ne_newline_of_restOfLine_ne_nil h (Option.some.inj heq)
    have hgoes : ¬(c = '\n' ∨ c = '\r' ∧ (cs ++ ahead).head? = some '\n') :=
      not_or.mpr ⟨Ne.symm hc, fun hboth => hnext hboth.2⟩
    rw [List.cons_append, restOfLine, if_neg hgoes, ih hcs, List.cons_append]

/-! ## Positions -/

namespace Position

theorem foldl_advance (p : Position) (cs : List Char) :
    cs.foldl advance p = ⟨p.line + cs.count '\n',
      if '\n' ∈ cs then (lastLine cs).length + 1 else p.column + cs.length⟩ := by
  induction cs generalizing p with
  | nil => rfl
  | cons c cs ih =>
    rw [List.foldl_cons, ih, advance]
    by_cases hc : c = '\n'
    · -- The column starts anew, whether or not more newlines follow.
      subst hc
      have hlast : (lastLine ('\n' :: cs)).length = (lastLine cs).length := by
        rw [lastLine, if_pos List.mem_cons_self]
      rw [if_pos rfl, if_pos List.mem_cons_self, List.count_cons_self, hlast]
      split
      · simp only [mk.injEq, and_true]
        omega
      · next hcs =>
        rw [lastLine_of_not_mem hcs]
        simp only [mk.injEq]
        omega
    · -- The column goes on to the next newline, if there is one.
      have hmem : '\n' ∈ c :: cs ↔ '\n' ∈ cs := by simp [Ne.symm hc]
      rw [if_neg hc, List.count_cons_of_ne hc]
      by_cases hcs : '\n' ∈ cs
      · rw [if_pos hcs, if_pos (hmem.mpr hcs), lastLine, if_pos (hmem.mpr hcs)]
      · rw [if_neg hcs, if_neg (hcs ∘ hmem.mp), List.length_cons]
        simp only [mk.injEq, true_and]
        omega

/-- **A position counts** the newlines before it, and the characters behind the last of them. -/
theorem after_eq (cs : List Char) :
    after cs = ⟨cs.count '\n' + 1, (lastLine cs).length + 1⟩ := by
  rw [after, foldl_advance, start, Nat.add_comm]
  split
  · rfl
  · next hcs => rw [lastLine_of_not_mem hcs, Nat.add_comm 1 cs.length]

end Position

/-! ## Lines of a diagnostic -/

namespace Diagnostic

open Text (cut cut_ne_nil cut_cons_of_ne)

theorem linesOf_cons {piece : List Char} {pieces : List (List Char)} (h : pieces ≠ []) :
    linesOf (piece :: pieces) =
      (if piece.getLast? = some '\r' then piece.dropLast else piece) :: linesOf pieces := by
  cases pieces with
  | nil => exact absurd rfl h
  | cons next rest => rfl

theorem getElem?_succ_linesOf (piece : List Char) (pieces : List (List Char)) (k : Nat) :
    (linesOf (piece :: pieces))[k + 1]? = (linesOf pieces)[k]? := by
  cases pieces with
  | nil => rfl
  | cons next rest => rw [linesOf, List.getElem?_cons_succ]

theorem getElem?_zero_linesOf (c d : Char) (piece : List Char) (pieces : List (List Char)) :
    (linesOf ((c :: d :: piece) :: pieces))[0]? =
      (linesOf ((d :: piece) :: pieces))[0]?.map (c :: ·) := by
  cases pieces with
  | nil => rfl
  | cons next rest =>
    simp only [linesOf, List.getElem?_cons_zero, Option.map_some, List.getLast?_cons_cons,
      List.dropLast_cons_cons]
    split <;> rfl

/-- The first line of a text goes up to the first line end. -/
theorem getElem?_zero_linesOf_cut (cs : List Char) :
    (linesOf (cut '\n' cs))[0]? = some (restOfLine cs) := by
  induction cs with
  | nil => rfl
  | cons c cs ih =>
    by_cases hc : c = '\n'
    · rw [cut, if_pos hc, restOfLine, if_pos (.inl hc), linesOf_cons (cut_ne_nil _ _)]
      rfl
    obtain ⟨piece, pieces, hcs, hcut⟩ := cut_cons_of_ne hc cs
    rw [hcut]
    cases cs with
    | nil =>
      obtain ⟨rfl, rfl⟩ := List.cons.inj hcs
      simp [linesOf, restOfLine, hc]
    | cons d ds =>
      by_cases hd : d = '\n'
      · -- The character is the last of its line, or belongs to the line end.
        rw [cut, if_pos hd] at hcs
        obtain ⟨rfl, rfl⟩ := List.cons.inj hcs
        rw [linesOf_cons (cut_ne_nil _ _)]
        simp [restOfLine, hc, hd]
      · obtain ⟨piece', _, -, hds⟩ := cut_cons_of_ne hd ds
        obtain ⟨rfl, rfl⟩ := List.cons.inj (hcs.symm.trans hds)
        have hgoes : restOfLine (c :: d :: ds) = c :: restOfLine (d :: ds) :=
          if_neg (by simp [hc, hd])
        rw [getElem?_zero_linesOf, ← hcs, ih, hgoes, Option.map_some]

/-- Every line of a text goes from one newline to the next line end. -/
theorem getElem?_linesOf_cut {before ahead : List Char} (h : restOfLine ahead ≠ []) :
    (linesOf (cut '\n' (before ++ ahead)))[before.count '\n']? =
      some (lastLine before ++ restOfLine ahead) := by
  induction before with
  | nil => exact getElem?_zero_linesOf_cut ahead
  | cons c before ih =>
    by_cases hc : c = '\n'
    · subst hc
      rw [List.cons_append, cut, if_pos rfl, List.count_cons_self, getElem?_succ_linesOf, ih,
        lastLine, if_pos List.mem_cons_self]
    rw [List.count_cons_of_ne hc]
    by_cases hmem : '\n' ∈ before
    · -- The character is in an earlier line, which is not looked at.
      obtain ⟨piece, pieces, hbefore, hcut⟩ := cut_cons_of_ne hc (before ++ ahead)
      have hpos : 0 < before.count '\n' := List.count_pos_iff.mpr hmem
      obtain ⟨k, hk⟩ := Nat.exists_eq_add_one_of_ne_zero (Nat.ne_of_gt hpos)
      rw [hbefore, hk, getElem?_succ_linesOf] at ih
      rw [List.cons_append, hcut, hk, getElem?_succ_linesOf, ih, lastLine,
        if_pos (List.mem_cons_of_mem c hmem)]
    · -- No newline has been passed: this is the first line.
      have hline : '\n' ∉ c :: before := by simp [Ne.symm hc, hmem]
      rw [List.count_eq_zero.mpr hmem, getElem?_zero_linesOf_cut, restOfLine_append hline h,
        lastLine_of_not_mem hline]

/-- **The line of a place** is what stands before it in the line, and what stands behind it. -/
theorem sourceLine_eq {source : String} {before ahead : List Char}
    (hsource : source.toList = before ++ ahead) (h : restOfLine ahead ≠ []) :
    sourceLine source (Position.after before).line =
      String.ofList (lastLine before ++ restOfLine ahead) := by
  rw [sourceLine, hsource, Position.after_eq, Nat.add_sub_cancel, getElem?_linesOf_cut h]

end Diagnostic

end Stencil
