import Stencil.Text.Character
import Stencil.Text.Fields

/-!
# Texts taken apart

A text is cut at a separator into pieces that have no separator in them and that are the text again
when they are joined; no other pieces are like that. A text is trimmed to what is left when blanks
are taken off both ends as long as there are any; no other text is like that. Both are said here
without the functions that do it.

## Main definitions

* `SplitsInto sep s pieces`: the text is made of the pieces, which have no separator in them
* `TrimsTo s t`: the text is `t` between blanks, and `t` neither starts nor ends with a blank

## Main results

* `splitsInto_iff`: a text splits into its fields, and in no other way
* `trimsTo_iff`: a text trims to one text only
-/

namespace Stencil.Text

/-! ## Cutting -/

section Cut

variable {sep : Char}

/-- A character that does not separate belongs to the first piece. -/
theorem cut_cons_of_ne {c : Char} (hc : c ≠ sep) (cs : List Char) :
    ∃ piece pieces, cut sep cs = piece :: pieces ∧ cut sep (c :: cs) = (c :: piece) :: pieces := by
  obtain ⟨piece, pieces, hcut⟩ := List.exists_cons_of_ne_nil (cut_ne_nil sep cs)
  exact ⟨piece, pieces, hcut, by rw [cut, if_neg hc, hcut]⟩

/-- A text is cut behind its first field. -/
theorem cut_append_sep {a b : List Char} (ha : sep ∉ a) :
    cut sep (a ++ sep :: b) = a :: cut sep b := by
  induction a with
  | nil => simp [cut]
  | cons c a ih =>
    obtain ⟨hc, ha⟩ := List.ne_and_not_mem_of_not_mem_cons ha
    rw [List.cons_append, cut, if_neg (Ne.symm hc), ih ha]

/-- A text without the separator is its only field. -/
theorem cut_of_not_mem {a : List Char} (ha : sep ∉ a) : cut sep a = [a] := by
  induction a with
  | nil => rfl
  | cons c a ih =>
    obtain ⟨hc, ha⟩ := List.ne_and_not_mem_of_not_mem_cons ha
    rw [cut, if_neg (Ne.symm hc), ih ha]

/-- There is no separator left in the pieces. -/
theorem not_mem_of_mem_cut {cs piece : List Char} (h : piece ∈ cut sep cs) : sep ∉ piece := by
  induction cs generalizing piece with
  | nil =>
    obtain rfl := List.mem_singleton.mp h
    exact List.not_mem_nil
  | cons c cs ih =>
    by_cases hc : c = sep
    · rw [cut, if_pos hc] at h
      rcases List.mem_cons.mp h with rfl | h
      · exact List.not_mem_nil
      · exact ih h
    · obtain ⟨first, rest, hcs, hcut⟩ := cut_cons_of_ne hc cs
      rw [hcs] at ih
      rw [hcut] at h
      rcases List.mem_cons.mp h with rfl | h
      · exact List.not_mem_cons_of_ne_of_not_mem (Ne.symm hc) (ih List.mem_cons_self)
      · exact ih (List.mem_cons_of_mem first h)

/-- A text that is not cut anywhere has no separator in it. -/
theorem not_mem_of_cut_eq_singleton {cs piece : List Char} (h : cut sep cs = [piece]) :
    sep ∉ cs := by
  have hjoin := joined_map_cut sep cs
  rw [h] at hjoin
  obtain rfl : piece = cs := String.ofList_injective hjoin
  exact not_mem_of_mem_cut (h ▸ List.mem_singleton_self piece)

theorem cut_joined {pieces : List String} (hne : pieces ≠ [])
    (hsep : ∀ piece ∈ pieces, sep ∉ piece.toList) :
    cut sep (joined (String.singleton sep) pieces).toList = pieces.map String.toList := by
  induction pieces with
  | nil => exact absurd rfl hne
  | cons piece pieces ih =>
    obtain ⟨hpiece, hpieces⟩ := List.forall_mem_cons.mp hsep
    cases pieces with
    | nil => exact cut_of_not_mem hpiece
    | cons next rest =>
      -- There is no separator in the first piece, so it ends where the first one stands.
      have hsplit : (joined (String.singleton sep) (piece :: next :: rest)).toList =
          piece.toList ++ sep :: (joined (String.singleton sep) (next :: rest)).toList := by
        simp [joined]
      rw [hsplit, cut_append_sep hpiece]
      exact congrArg (piece.toList :: ·) (ih (List.cons_ne_nil next rest) hpieces)

/-- The text is made of the pieces with the separator between neighbours, and there is none in
them. There is at least one piece, even if the text is empty. -/
structure SplitsInto (sep : Char) (s : String) (pieces : List String) : Prop where
  ne_nil : pieces ≠ []
  not_mem : ∀ piece ∈ pieces, sep ∉ piece.toList
  joined_eq : joined (String.singleton sep) pieces = s

variable {s : String} {pieces : List String}

theorem splitsInto_fields (sep : Char) (s : String) : SplitsInto sep s (fields sep s) where
  ne_nil h := cut_ne_nil sep s.toList (List.map_eq_nil_iff.mp h)
  not_mem piece hpiece := by
    obtain ⟨cs, hcs, rfl⟩ := List.mem_map.mp hpiece
    rw [String.toList_ofList]
    exact not_mem_of_mem_cut hcs
  joined_eq := joined_fields sep s

theorem SplitsInto.fields_eq (h : SplitsInto sep s pieces) : fields sep s = pieces := by
  rw [← h.joined_eq, fields, cut_joined h.ne_nil h.not_mem, List.map_map]
  simp [Function.comp_def]

/-- **A text splits into its fields, and in no other way.** -/
theorem splitsInto_iff : SplitsInto sep s pieces ↔ fields sep s = pieces :=
  ⟨SplitsInto.fields_eq, fun h => h ▸ splitsInto_fields sep s⟩

end Cut

/-! ## Trimming -/

/-- Nothing in the text but blanks. -/
def AllBlank (s : String) : Prop :=
  ∀ c ∈ s.toList, isBlank c = true

/-- The text `s` is `t` between blanks, and `t` neither starts nor ends with a blank. -/
structure TrimsTo (s t : String) : Prop where
  surrounded : ∃ left right, s = left ++ t ++ right ∧ AllBlank left ∧ AllBlank right
  first : ∀ c ∈ t.toList.head?, isBlank c = false
  last : ∀ c ∈ t.toList.getLast?, isBlank c = false

variable {s t : String}

theorem trimsTo_self (hfirst : ∀ c ∈ s.toList.head?, isBlank c = false)
    (hlast : ∀ c ∈ s.toList.getLast?, isBlank c = false) : TrimsTo s s where
  surrounded := ⟨"", "", by simp, by simp [AllBlank], by simp [AllBlank]⟩
  first := hfirst
  last := hlast

/-- There is nothing to trim of a text that has been trimmed. -/
theorem TrimsTo.again (h : TrimsTo s t) : TrimsTo t t :=
  trimsTo_self h.first h.last

/-- There is nothing to trim of a text without blanks. -/
theorem TrimsTo.of_forall (h : ∀ c ∈ s.toList, isBlank c = false) : TrimsTo s s :=
  trimsTo_self (fun c hc => h c (List.mem_of_mem_head? hc))
    fun c hc => h c (List.mem_of_mem_getLast? hc)

/-! Blanks are taken off the left end, and then off the left end of what is left in reverse. -/

theorem not_isBlank_of_head?_dropWhile {cs : List Char} {c : Char}
    (h : (cs.dropWhile isBlank).head? = some c) : isBlank c = false := by
  have hhead := List.head?_dropWhile_not isBlank cs
  rw [h] at hhead
  exact hhead

theorem isBlank_of_mem_takeWhile {cs : List Char} {c : Char} (h : c ∈ cs.takeWhile isBlank) :
    isBlank c = true :=
  List.all_eq_true.mp List.all_takeWhile c h

theorem exists_trimChars_append (cs : List Char) :
    ∃ right, trimChars cs ++ right = cs.dropWhile isBlank ∧ ∀ c ∈ right, isBlank c = true := by
  refine ⟨((cs.dropWhile isBlank).reverse.takeWhile isBlank).reverse, ?_, ?_⟩
  · rw [trimChars, ← List.reverse_append, List.takeWhile_append_dropWhile, List.reverse_reverse]
  · exact fun c hc => isBlank_of_mem_takeWhile (List.mem_reverse.mp hc)

theorem trimsTo_trim (s : String) : TrimsTo s (trim s) := by
  obtain ⟨right, hdrop, hright⟩ := exists_trimChars_append s.toList
  refine ⟨⟨.ofList (s.toList.takeWhile isBlank), .ofList right, ?_, ?_, ?_⟩, ?_, ?_⟩
  · rw [trim, ← String.ofList_append, ← String.ofList_append, List.append_assoc, hdrop,
      List.takeWhile_append_dropWhile, String.ofList_toList]
  · intro c hc
    rw [String.toList_ofList] at hc
    exact isBlank_of_mem_takeWhile hc
  · intro c hc
    rw [String.toList_ofList] at hc
    exact hright c hc
  · -- The first character is the first that is not dropped from the left.
    intro c hc
    rw [trim, String.toList_ofList] at hc
    apply not_isBlank_of_head?_dropWhile
    rw [← hdrop, List.head?_append, hc, Option.some_or]
  · intro c hc
    rw [trim, String.toList_ofList, trimChars, List.getLast?_reverse] at hc
    exact not_isBlank_of_head?_dropWhile hc

theorem dropWhile_blanks_append {blanks rest : List Char} (hblanks : ∀ c ∈ blanks, isBlank c = true)
    (hrest : ∀ c ∈ rest.head?, isBlank c = false) :
    (blanks ++ rest).dropWhile isBlank = rest := by
  rw [List.dropWhile_append_of_pos hblanks]
  cases rest with
  | nil => rfl
  | cons c rest => rw [List.dropWhile_cons, hrest c rfl, if_neg Bool.false_ne_true]

theorem trimChars_of_surrounded {left cs right : List Char}
    (hleft : ∀ c ∈ left, isBlank c = true) (hright : ∀ c ∈ right, isBlank c = true)
    (hfirst : ∀ c ∈ cs.head?, isBlank c = false) (hlast : ∀ c ∈ cs.getLast?, isBlank c = false) :
    trimChars (left ++ (cs ++ right)) = cs := by
  have hback : (right.reverse ++ cs.reverse).dropWhile isBlank = cs.reverse :=
    dropWhile_blanks_append (fun c hc => hright c (List.mem_reverse.mp hc))
      (by rwa [List.head?_reverse])
  unfold trimChars
  cases cs with
  | nil =>
    -- All is blank, so nothing is left to be trimmed from the right.
    have hall : ∀ c ∈ left ++ right, isBlank c = true :=
      fun c hc => (List.mem_append.mp hc).elim (hleft c) (hright c)
    have hfront := dropWhile_blanks_append hall hfirst
    rw [List.append_nil] at hfront
    rw [List.nil_append, hfront, List.reverse_nil, List.dropWhile_nil, List.reverse_nil]
  | cons c cs =>
    have hfront : (left ++ (c :: cs ++ right)).dropWhile isBlank = c :: cs ++ right :=
      dropWhile_blanks_append hleft hfirst
    rw [hfront, List.reverse_append, hback, List.reverse_reverse]

theorem TrimsTo.trim_eq (h : TrimsTo s t) : trim s = t := by
  obtain ⟨left, right, rfl, hleft, hright⟩ := h.surrounded
  rw [trim, String.toList_append, String.toList_append, List.append_assoc,
    trimChars_of_surrounded hleft hright h.first h.last, String.ofList_toList]

/-- **A text trims to one text only.** -/
theorem trimsTo_iff : TrimsTo s t ↔ trim s = t :=
  ⟨TrimsTo.trim_eq, fun h => h ▸ trimsTo_trim s⟩

end Stencil.Text
