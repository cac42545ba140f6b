import Stencil.Text.Character

/-!
# Escaped texts

An escaped text has no markup in it, and it can be read back: the ampersand is escaped too, so an
entity in it always stands for the character it was written for.

## Main definitions

* `isMarkup`: the characters that end a text or an attribute value
* `Clean s`: nothing in the text is markup
* `unescape`: a text with every entity replaced by its character

## Main results

* `clean_escape`: nothing in an escaped text is markup
* `unescape_escape`: escaping is undone by replacing the entities
-/

namespace Stencil.Text

/-- Whether a character ends a text or an attribute value. -/
def isMarkup (c : Char) : Bool :=
  c == '<' || c == '>' || c == '"' || c == '\''

/-- Nothing in the text is markup. -/
def Clean (s : String) : Prop :=
  ∀ c ∈ s.toList, isMarkup c = false

instance (s : String) : Decidable (Clean s) :=
  List.decidableBAll (fun c => isMarkup c = false) s.toList

/-- Characters, with every entity among them replaced by what it stands for, from left to right. -/
def unescapeChars : List Char → List Char
  | '&' :: 'a' :: 'm' :: 'p' :: ';' :: rest => '&' :: unescapeChars rest
  | '&' :: 'l' :: 't' :: ';' :: rest => '<' :: unescapeChars rest
  | '&' :: 'g' :: 't' :: ';' :: rest => '>' :: unescapeChars rest
  | '&' :: 'q' :: 'u' :: 'o' :: 't' :: ';' :: rest => '"' :: unescapeChars rest
  | '&' :: '#' :: 'x' :: '2' :: '7' :: ';' :: rest => '\'' :: unescapeChars rest
  | c :: rest => c :: unescapeChars rest
  | [] => []

/-- A text with every entity replaced by the character it stands for. -/
def unescape (s : String) : String :=
  String.ofList (unescapeChars s.toList)

/-- Nothing in the spelling of a character is markup. -/
theorem isMarkup_of_mem_entity {c d : Char} (h : d ∈ entity c) : isMarkup d = false := by
  rw [entity.eq_def] at h
  split at h
  · exact (by decide : Clean "&amp;") d h
  · exact (by decide : Clean "&lt;") d h
  · exact (by decide : Clean "&gt;") d h
  · exact (by decide : Clean "&quot;") d h
  · exact (by decide : Clean "&#x27;") d h
  · next hlt hgt hquot hapos =>
    obtain rfl := List.mem_singleton.mp h
    simp only [isMarkup, Bool.or_eq_false_iff, beq_eq_false_iff_ne]
    exact ⟨⟨⟨hlt, hgt⟩, hquot⟩, hapos⟩

/-- **Nothing in an escaped text is markup.** -/
theorem clean_escape (s : String) : Clean (escape s) := by
  intro c hc
  rw [escape, String.toList_ofList, List.mem_flatMap] at hc
  obtain ⟨_, -, hc⟩ := hc
  exact isMarkup_of_mem_entity hc

/-- A character that begins no entity is read as itself. -/
theorem unescapeChars_cons {c : Char} (h : c ≠ '&') (rest : List Char) :
    unescapeChars (c :: rest) = c :: unescapeChars rest := by
  rw [unescapeChars.eq_def]
  split <;> simp_all

/-- The spelling of a character is read as the character, whatever comes behind it. -/
theorem unescapeChars_entity_append (c : Char) (rest : List Char) :
    unescapeChars (entity c ++ rest) = c :: unescapeChars rest := by
  rw [entity.eq_def]
  split
  · exact unescapeChars.eq_1 rest
  · exact unescapeChars.eq_2 rest
  · exact unescapeChars.eq_3 rest
  · exact unescapeChars.eq_4 rest
  · exact unescapeChars.eq_5 rest
  · next hamp _ _ _ _ => exact unescapeChars_cons hamp rest

/-- **Escaping is undone by replacing the entities.** -/
theorem unescape_escape (s : String) : unescape (escape s) = s := by
  have hchars (cs : List Char) : unescapeChars (cs.flatMap entity) = cs := by
    induction cs with
    | nil => exact unescapeChars.eq_7
    | cons c cs ih => rw [List.flatMap_cons, unescapeChars_entity_append, ih]
  rw [unescape, escape, String.toList_ofList, hchars, String.ofList_toList]

end Stencil.Text
