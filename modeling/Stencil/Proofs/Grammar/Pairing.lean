import Stencil.Grammar.Expression
import Stencil.Proofs.Grammar.Passage

/-!
# Backslash pairs

A string literal is scanned twice: once for the quote that closes it, and once more between its
quotes for the text that it denotes. Each scan goes from left to right and pairs a backslash with
the character behind it. The pairing is defined here for any characters, apart from both scans; they
agree because the characters between the quotes are paired as they are in front of all that follows.

## Main definitions

* `Mark`, `marks`: a backslash with its character, or a character by itself
* `Mark.text`: what a mark between two quotes denotes

## Main results

* `marks_append`: characters are paired alike, whatever follows them
* `shielded_iff_marks`: where neither a quote nor a backslash stands by itself
* `unescape_eq_flatMap_text`: the denoted text is made of marks
* `quotedString_ends_at_plain_quote`: string literals end at the first quote that stands by itself
-/

namespace Stencil.Grammar

open Scan

/-! ## Marks -/

/-- A part of what stands between two quotes. -/
inductive Mark where
  /-- A character by itself, no backslash. -/
  | plain (c : Char)
  /-- A backslash and the character behind it. -/
  | pair (c : Char)
  /-- A backslash behind which nothing stands. -/
  | lone
deriving DecidableEq

/-- Characters from left to right, every backslash paired with the character behind it. -/
def marks : List Char → List Mark
  | [] => []
  | ['\\'] => [.lone]
  | '\\' :: c :: cs => .pair c :: marks cs
  | c :: cs => .plain c :: marks cs

/-- What a mark denotes: some pairs a single character, and all else itself. -/
def Mark.text : Mark → List Char
  | plain c => [c]
  | pair 'n' => ['\n']
  | pair 't' => ['\t']
  | pair 'r' => ['\r']
  | pair c => if c ∈ ['"', '\'', '\\'] then [c] else ['\\', c]
  | lone => ['\\']

theorem marks_cons {c : Char} (hc : c ≠ '\\') (cs : List Char) :
    marks (c :: cs) = .plain c :: marks cs := by
  rw [marks]
  · rintro rfl
    exact absurd rfl hc
  · rintro d ds rfl
    exact absurd rfl hc

/-- What holds of no characters and of a backslash, and is kept by a pair and by any other character
in front, holds of all characters. -/
@[elab_as_elim]
theorem marks_induction {motive : List Char → Prop} (cs : List Char) (nil : motive [])
    (lone : motive ['\\']) (pair : ∀ c cs, motive cs → motive ('\\' :: c :: cs))
    (plain : ∀ c cs, c ≠ '\\' → motive cs → motive (c :: cs)) : motive cs := by
  induction cs using marks.induct with
  | case1 => exact nil
  | case2 => exact lone
  | case3 c cs ih => exact pair c cs ih
  | case4 c cs hlone hpair ih =>
    refine plain c cs ?_ ih
    rintro rfl
    cases cs with
    | nil => exact hlone rfl rfl
    | cons d ds => exact hpair d ds rfl rfl

/-- **Characters are paired alike, whatever follows them**, unless they end amid a pair. -/
theorem marks_append {cs : List Char} (h : .lone ∉ marks cs) (ds : List Char) :
    marks (cs ++ ds) = marks cs ++ marks ds := by
  induction cs using marks_induction with
  | nil => rfl
  | lone =>
    -- This backslash would be paired with what follows.
    exact absurd List.mem_cons_self h
  | pair c cs ih =>
    have htail : .lone ∉ marks cs := fun hmem => h (List.mem_cons_of_mem _ hmem)
    rw [List.cons_append, List.cons_append, marks, marks, ih htail, List.cons_append]
  | plain c cs hc ih =>
    rw [marks_cons hc] at h
    have htail : .lone ∉ marks cs := fun hmem => h (List.mem_cons_of_mem _ hmem)
    rw [List.cons_append, marks_cons hc, marks_cons hc, ih htail, List.cons_append]

/-- A backslash shields every quote, and every backslash shields a character, where no quote and no
backslash stands by itself. -/
theorem shielded_iff_marks (quote : Char) (cs : List Char) :
    Shielded quote cs ↔ .plain quote ∉ marks cs ∧ .lone ∉ marks cs := by
  induction cs using marks_induction with
  | nil => simp [Shielded, marks]
  | lone => simp [Shielded, marks]
  | pair c cs ih => simp [Shielded, marks, ih]
  | plain c cs hc ih =>
    rw [shielded_cons hc, marks_cons hc, ih]
    simp [and_assoc, eq_comm (a := c)]

/-! ## The quote that closes a literal -/

/-- A quote that stands by itself closes the characters before the first one of its kind. -/
theorem exists_shielded_of_mem_marks {quote : Char} {cs : List Char}
    (h : .plain quote ∈ marks cs) :
    ∃ inner rest, Shielded quote inner ∧ cs = inner ++ quote :: rest := by
  induction cs using marks_induction with
  | nil => simp [marks] at h
  | lone => simp [marks] at h
  | pair c cs ih =>
    obtain ⟨inner, rest, hinner, rfl⟩ := ih (by simpa [marks] using h)
    exact ⟨'\\' :: c :: inner, rest, hinner, rfl⟩
  | plain c cs hc ih =>
    by_cases hclose : c = quote
    · exact ⟨[], cs, trivial, by rw [hclose, List.nil_append]⟩
    · rw [marks_cons hc, List.mem_cons, Mark.plain.injEq] at h
      obtain ⟨inner, rest, hinner, rfl⟩ := ih (h.resolve_left (Ne.symm hclose))
      exact ⟨c :: inner, rest, (shielded_cons hc quote inner).mpr ⟨hclose, hinner⟩, rfl⟩

/-! ## The text of a literal -/

/-- **The denoted text is made of marks**, as they are met from left to right. -/
theorem unescape_eq_flatMap_text (cs : List Char) : unescape cs = (marks cs).flatMap Mark.text := by
  induction cs using marks_induction with
  | nil => rfl
  | lone => rfl
  | pair c cs ih =>
    rw [marks, List.flatMap_cons, ← ih]
    -- Six pairs denote a single character; in all others the backslash stays.
    by_cases hc : c ∈ ['n', 't', 'r', '"', '\'', '\\']
    · simp only [List.mem_cons, List.not_mem_nil, or_false] at hc
      rcases hc with rfl | rfl | rfl | rfl | rfl | rfl <;> rfl
    · simp only [List.mem_cons, List.not_mem_nil, or_false, not_or] at hc
      obtain ⟨hn, ht, hr, hdouble, hsingle, hback⟩ := hc
      have htext : (Mark.pair c).text = ['\\', c] := by
        simp [Mark.text, hdouble, hsingle, hback]
      rw [htext, unescape]
      · rfl
      all_goals assumption
  | plain c cs hc ih =>
    rw [marks_cons hc, List.flatMap_cons, ← ih, unescape_cons hc]
    rfl

/-! ## String literals -/

section Literals

variable {quote : Char} {r : List Char}

theorem quoted_eq_some_iff (hquote : quote = '"' ∨ quote = '\'') {lexeme rest : List Char} :
    quoted (quote :: r) = some (lexeme, rest) ↔
      ∃ inner, Shielded quote inner ∧ lexeme = quote :: (inner ++ [quote]) ∧
        r = inner ++ quote :: rest := by
  constructor
  · intro h
    obtain ⟨quote', inner, -, hinner, rfl⟩ := finds_quoted _ _ _ h
    have hsplit := lossless_quoted _ _ _ h
    rw [List.cons_append, List.append_assoc, List.singleton_append] at hsplit
    obtain ⟨rfl, rfl⟩ := List.cons.inj hsplit
    exact ⟨inner, hinner, rfl, rfl⟩
  · rintro ⟨inner, hinner, rfl, rfl⟩
    have h := quoted_append hquote hinner rest
    rwa [List.cons_append, List.append_assoc, List.singleton_append] at h

/-- What a string literal is and what it denotes, in terms of the characters between its quotes. -/
theorem result_quotedString_eq_some_iff (hquote : quote = '"' ∨ quote = '\'') {k : Cursor}
    {term : Term} {j : Input} :
    (quotedString ⟨k, quote :: r⟩).result = some (term, j) ↔
      ∃ inner, Shielded quote inner ∧ r = inner ++ quote :: j.rest ∧
        j.cursor = k.past (quote :: (inner ++ [quote])) ∧
        term = .literal (.string (String.ofList (unescape inner))) := by
  rw [quotedString, Reader.result_tracked, Reader.result_bind, Reader.result_lexeme,
    Option.bind_eq_some_iff]
  constructor
  · rintro ⟨⟨lexeme, left⟩, hfound, hterm⟩
    obtain ⟨⟨cs, rest⟩, hscan, hpair⟩ := Option.map_eq_some_iff.mp hfound
    obtain ⟨rfl, rfl⟩ := Prod.mk.inj hpair
    obtain ⟨inner, hinner, rfl, hr⟩ := (quoted_eq_some_iff hquote).mp hscan
    obtain ⟨rfl, rfl⟩ := Prod.mk.inj (Option.some.inj hterm)
    exact ⟨inner, hinner, hr, rfl, by rw [stringOfQuoted_cons]⟩
  · obtain ⟨cursor, rest⟩ := j
    rintro ⟨inner, hinner, hr, rfl, rfl⟩
    refine ⟨(quote :: (inner ++ [quote]), ⟨k.past (quote :: (inner ++ [quote])), rest⟩), ?_, ?_⟩
    · rw [(quoted_eq_some_iff hquote).mpr ⟨inner, hinner, rfl, hr⟩]
      rfl
    · dsimp only
      rw [stringOfQuoted_cons]
      rfl

end Literals

/-- **A string literal ends at the first quote that stands by itself.** It is read if and only if
there is such a quote behind the first one. The characters between the two are paired as they are in
front of all that follows, and the text is made of their marks; so no backslash is left over where
the text is taken from them. And every text has a literal that denotes it. -/
theorem quotedString_ends_at_plain_quote {quote : Char} (hquote : quote = '"' ∨ quote = '\'')
    (k : Cursor) (r : List Char) :
    ((quotedString ⟨k, quote :: r⟩).result.isSome ↔ .plain quote ∈ marks r) ∧
    (∀ term j, (quotedString ⟨k, quote :: r⟩).result = some (term, j) →
      ∃ inner, r = inner ++ quote :: j.rest ∧
        j.cursor = k.past (quote :: (inner ++ [quote])) ∧
        marks r = marks inner ++ .plain quote :: marks j.rest ∧
        .plain quote ∉ marks inner ∧ .lone ∉ marks inner ∧
        term = .literal (.string (String.ofList ((marks inner).flatMap Mark.text)))) ∧
    ∀ (v : String) (rest : List Char),
      (quotedString ⟨k, quote :: (escaped quote v.toList ++ quote :: rest)⟩).result =
        some (.literal (.string v),
          ⟨k.past (quote :: (escaped quote v.toList ++ [quote])), rest⟩) := by
  have hback : quote ≠ '\\' := by rcases hquote with rfl | rfl <;> decide
  -- Shielded characters are paired as they are, and the quote behind them stands by itself.
  have hmarks {inner rest : List Char} (hinner : Shielded quote inner) :
      marks (inner ++ quote :: rest) = marks inner ++ .plain quote :: marks rest := by
    rw [marks_append ((shielded_iff_marks quote inner).mp hinner).2, marks_cons hback]
  refine ⟨?_, ?_, ?_⟩
  · rw [Option.isSome_iff_exists]
    constructor
    · rintro ⟨⟨term, j⟩, hread⟩
      obtain ⟨inner, hinner, rfl, -, -⟩ := (result_quotedString_eq_some_iff hquote).mp hread
      rw [hmarks hinner]
      exact List.mem_append_right _ List.mem_cons_self
    · intro hmem
      obtain ⟨inner, rest, hinner, rfl⟩ := exists_shielded_of_mem_marks hmem
      exact ⟨(_, ⟨_, rest⟩), (result_quotedString_eq_some_iff hquote).mpr
        ⟨inner, hinner, rfl, rfl, rfl⟩⟩
  · intro term j hread
    obtain ⟨inner, hinner, rfl, hcursor, rfl⟩ := (result_quotedString_eq_some_iff hquote).mp hread
    obtain ⟨hplain, hlone⟩ := (shielded_iff_marks quote inner).mp hinner
    refine ⟨inner, rfl, hcursor, hmarks hinner, hplain, hlone, ?_⟩
    rw [unescape_eq_flatMap_text]
  · intro v rest
    refine (result_quotedString_eq_some_iff hquote).mpr
      ⟨escaped quote v.toList, shielded_escaped quote v.toList, rfl, rfl, ?_⟩
    rw [unescape_escaped hquote, String.ofList_toList]

/-- A quote behind two backslashes closes a literal, and one behind three does not. -/
theorem quotedString_ends_at_plain_quote_backslashes :
    (quotedString ⟨.start, '\'' :: "it\\'s\\\\' b".toList⟩).result.isSome ∧
      ¬ (quotedString ⟨.start, '"' :: "a\\\\\\\" b".toList⟩).result.isSome := by
  constructor
  · exact (quotedString_ends_at_plain_quote (.inr rfl) .start _).1.mpr (by decide)
  · intro hread
    have hmem := (quotedString_ends_at_plain_quote (.inl rfl) .start _).1.mp hread
    exact absurd hmem (by decide)

end Stencil.Grammar
