/-!
# Fields of a text

Texts cut at a separator and put together again.

## Main definitions

* `fields`: the pieces of a text between the occurrences of a separator
* `joined`: texts in a row with a separator between neighbours
* `copies`, `repeated`: a character or a text over and over

## Main results

* `joined_fields`: the fields of a text with the separator between them are the text
-/

namespace Stencil.Text

/-- The pieces between the occurrences of `sep`: one more than there are occurrences. -/
def cut (sep : Char) : List Char → List (List Char)
  | [] => [[]]
  | c :: cs =>
    if c = sep then
      [] :: cut sep cs
    else
      match cut sep cs with
      | [] => [[c]]
      | piece :: pieces => (c :: piece) :: pieces

/-- The pieces of a text between the occurrences of `sep`. -/
def fields (sep : Char) (s : String) : List String :=
  (cut sep s.toList).map String.ofList

/-- The texts in a row, with `sep` between neighbours. -/
def joined (sep : String) : List String → String
  | [] => ""
  | [s] => s
  | s :: t :: rest => s ++ sep ++ joined sep (t :: rest)

/-- `n` copies of a character. -/
def copies (n : Nat) (c : Char) : String :=
  String.ofList (List.replicate n c)

/-- `n` copies of a text, one behind the other. -/
def repeated (n : Nat) (s : String) : String :=
  -- However often the empty text is repeated, nothing has to be written.
  if s.isEmpty then "" else String.join (List.replicate n s)

theorem cut_ne_nil (sep : Char) (cs : List Char) : cut sep cs ≠ [] := by
  cases cs with
  | nil => simp [cut]
  | cons c cs =>
    by_cases h : c = sep
    · simp [cut, h]
    · simp only [cut, h, if_false]
      split <;> simp

/-- Pieces with the separator between them are what was cut. -/
theorem joined_map_cut (sep : Char) (cs : List Char) :
    joined (String.singleton sep) ((cut sep cs).map String.ofList) = String.ofList cs := by
  induction cs with
  | nil => rfl
  | cons c cs ih =>
    by_cases h : c = sep
    · subst h
      rw [cut, if_pos rfl]
      cases hc : cut c cs with
      | nil => exact absurd hc (cut_ne_nil c cs)
      | cons p ps =>
        rw [hc] at ih
        simp only [List.map_cons] at ih ⊢
        rw [joined, ih, ← String.toList_inj]
        simp
    · rw [cut, if_neg h]
      cases hc : cut sep cs with
      | nil => exact absurd hc (cut_ne_nil sep cs)
      | cons p ps =>
        rw [hc] at ih
        rw [← String.toList_inj] at ih ⊢
        cases ps with
        | nil => simpa [joined] using ih
        | cons q qs => simpa [joined] using ih

/-- Fields with the separator between them are the text. -/
@[simp] theorem joined_fields (sep : Char) (s : String) :
    joined (String.singleton sep) (fields sep s) = s := by
  rw [fields, joined_map_cut, String.ofList_toList]

end Stencil.Text
