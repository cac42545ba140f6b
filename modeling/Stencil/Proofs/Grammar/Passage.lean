import Stencil.Proofs.Grammar.Lexeme

/-!
# String literals, text and comments

The lexemes that may hold almost any character: string literals end at the first quote that no
backslash shields, comments end at the first end mark, and text ends where a tag or a comment opens.

## Main definitions

* `Shielded`: characters in which a backslash precedes every quote
* `Scan.escaped`: characters with backslashes before quotes and backslashes
* `HasOpening`: a tag or a comment opens somewhere

## Main results

* `Scan.finds_quoted`, `Scan.finds_text`, `Scan.finds_comment`: what is found has its form
* `Scan.quoted_append`, `Scan.shielded_escaped`, `Scan.unescape_escaped`: every text has a string
  literal that denotes it
* `Scan.text_append`, `Scan.borders_of_text`: text is found up to the next tag or comment
-/

namespace Stencil.Grammar

open Scan

/-! ## String literals -/

/-- A backslash shields every quote, and every backslash shields a character. -/
def Shielded (quote : Char) : List Char → Prop
  | [] => True
  | '\\' :: _ :: cs => Shielded quote cs
  | c :: cs => c ≠ '\\' ∧ c ≠ quote ∧ Shielded quote cs

/-- The characters with a backslash before every backslash and every quote. -/
def Scan.escaped (quote : Char) (cs : List Char) : List Char :=
  cs.flatMap fun c => if c = '\\' ∨ c = quote then ['\\', c] else [c]

section Cons

variable {c : Char} (hc : c ≠ '\\') (quote : Char) (cs : List Char)

include hc

theorem shielded_cons : Shielded quote (c :: cs) ↔ c ≠ quote ∧ Shielded quote cs := by
  rw [Shielded]
  · exact and_iff_right hc
  · exact fun _ _ hback _ => hc hback

theorem Scan.quotedRest_cons :
    quotedRest quote (c :: cs) =
      if c = quote then
        some ([c], cs)
      else
        (quotedRest quote cs).map fun (lexeme, rest) => (c :: lexeme, rest) := by
  rw [quotedRest]
  exact fun _ _ hback _ => hc hback

theorem Scan.unescape_cons : unescape (c :: cs) = c :: unescape cs := by
  rw [unescape]
  exact fun _ _ hback _ => hc hback

end Cons

namespace Scan

theorem finds_quotedRest (quote : Char) :
    Scanner.Finds (quotedRest quote) fun cs =>
      ∃ body, Shielded quote body ∧ cs = body ++ [quote] := by
  intro cs
  fun_induction quotedRest quote cs with
  | case1 => intro lexeme rest h; simp at h
  | case2 c cs ih =>
    intro lexeme rest h
    simp only [Option.map_eq_some_iff] at h
    obtain ⟨⟨found, left⟩, hfound, hpair⟩ := h
    obtain ⟨rfl, rfl⟩ := Prod.mk.inj hpair
    obtain ⟨body, hbody, rfl⟩ := ih _ _ hfound
    exact ⟨'\\' :: c :: body, hbody, rfl⟩
  | case3 cs hshield =>
    intro lexeme rest h
    obtain ⟨rfl, rfl⟩ := Prod.mk.inj (Option.some.inj h)
    exact ⟨[], trivial, rfl⟩
  | case4 c cs hshield hc ih =>
    intro lexeme rest h
    simp only [Option.map_eq_some_iff] at h
    obtain ⟨⟨found, left⟩, hfound, hpair⟩ := h
    obtain ⟨rfl, rfl⟩ := Prod.mk.inj hpair
    obtain ⟨body, hbody, rfl⟩ := ih _ _ hfound
    refine ⟨c :: body, ?_, rfl⟩
    -- A backslash here would shield a character, for a quote is found behind it.
    have hback : c ≠ '\\' := by
      rintro rfl
      have hsplit := lossless_quotedRest quote _ _ _ hfound
      cases cs with
      | nil => simp at hsplit
      | cons d cs => exact hshield d cs rfl rfl
    exact (shielded_cons hback quote body).mpr ⟨hc, hbody⟩

/-- String literals are shielded characters between two quotes of one kind. -/
theorem finds_quoted :
    Scanner.Finds quoted fun cs => ∃ quote body, (quote = '"' ∨ quote = '\'') ∧
      Shielded quote body ∧ cs = quote :: (body ++ [quote]) := by
  intro cs lexeme rest h
  cases cs with
  | nil => simp [quoted] at h
  | cons c cs =>
    simp only [quoted] at h
    split at h
    · next hquote =>
      simp only [Option.map_eq_some_iff] at h
      obtain ⟨⟨found, left⟩, hfound, hpair⟩ := h
      obtain ⟨rfl, rfl⟩ := Prod.mk.inj hpair
      have hquote : c = '"' ∨ c = '\'' := by simpa using hquote
      obtain ⟨body, hbody, rfl⟩ := finds_quotedRest c _ _ _ hfound
      exact ⟨c, body, hquote, hbody, rfl⟩
    · simp at h

theorem escaped_cons_of_mark {quote c : Char} {cs : List Char} (h : c = '\\' ∨ c = quote) :
    escaped quote (c :: cs) = '\\' :: c :: escaped quote cs := by
  simp [escaped, h]

theorem escaped_cons_of_not_mark {quote c : Char} {cs : List Char}
    (h : ¬ (c = '\\' ∨ c = quote)) : escaped quote (c :: cs) = c :: escaped quote cs := by
  simp [escaped, h]

theorem shielded_escaped (quote : Char) (cs : List Char) : Shielded quote (escaped quote cs) := by
  induction cs with
  | nil => exact trivial
  | cons c cs ih =>
    by_cases hc : c = '\\' ∨ c = quote
    · rw [escaped_cons_of_mark hc]
      exact ih
    · obtain ⟨hback, hne⟩ := not_or.mp hc
      rw [escaped_cons_of_not_mark hc]
      exact (shielded_cons hback quote _).mpr ⟨hne, ih⟩

theorem quotedRest_append {quote : Char} (hquote : quote ≠ '\\') {body : List Char}
    (hbody : Shielded quote body) (rest : List Char) :
    quotedRest quote (body ++ quote :: rest) = some (body ++ [quote], rest) := by
  induction body using Shielded.induct with
  | case1 => rw [List.nil_append, quotedRest_cons hquote, if_pos rfl, List.nil_append]
  | case2 c cs ih =>
    rw [List.cons_append, List.cons_append, quotedRest, ih hbody]
    rfl
  | case3 c cs hpair ih =>
    rw [Shielded] at hbody
    · obtain ⟨hback, hne, hcs⟩ := hbody
      rw [List.cons_append, quotedRest_cons hback, if_neg hne, ih hcs]
      rfl
    · exact hpair

/-- Shielded characters between two quotes are a string literal. -/
theorem quoted_append {quote : Char} (hquote : quote = '"' ∨ quote = '\'') {body : List Char}
    (hbody : Shielded quote body) (rest : List Char) :
    quoted (quote :: (body ++ [quote]) ++ rest) = some (quote :: (body ++ [quote]), rest) := by
  have hback : quote ≠ '\\' := by rcases hquote with rfl | rfl <;> decide
  rw [List.cons_append, quoted, if_pos (by simpa using hquote), List.append_assoc,
    List.singleton_append, quotedRest_append hback hbody]
  rfl

/-- Escaped characters denote themselves. -/
theorem unescape_escaped {quote : Char} (hquote : quote = '"' ∨ quote = '\'') (cs : List Char) :
    unescape (escaped quote cs) = cs := by
  induction cs with
  | nil => rfl
  | cons c cs ih =>
    by_cases hc : c = '\\' ∨ c = quote
    · rw [escaped_cons_of_mark hc]
      rcases hc with rfl | rfl
      · rw [unescape, ih]
      · rcases hquote with rfl | rfl <;> rw [unescape, ih]
    · rw [escaped_cons_of_not_mark hc, unescape_cons fun hback => hc (.inl hback), ih]

end Scan

/-! ## Text -/

/-- A tag or a comment opens somewhere among the characters. -/
def HasOpening (cs : List Char) : Prop :=
  ∃ mark ∈ [['{', '{'], ['{', '%'], ['{', '#']], mark <:+: cs

namespace Scan

/-- Whether something opens is decided by two characters. -/
theorem opens_cons_cons (c d : Char) (cs : List Char) :
    opens (c :: d :: cs) = (c = '{' && (d = '{' || d = '%' || d = '#')) := by
  by_cases hc : c = '{'
  · simp [hc, opens]
  · rw [opens]
    · simp [hc]
    · rintro d ds heq
      exact absurd (List.cons.inj heq).1 hc

theorem opens_iff (cs : List Char) :
    opens cs ↔ ∃ mark ∈ [['{', '{'], ['{', '%'], ['{', '#']], mark <+: cs := by
  match cs with
  | [] => simp [opens]
  | [c] => simp [opens, List.cons_prefix_cons]
  | c :: d :: cs =>
    simp [opens_cons_cons, List.cons_prefix_cons, and_or_left, or_assoc, eq_comm (a := c),
      eq_comm (a := d)]

theorem hasOpening_cons (c : Char) (cs : List Char) :
    HasOpening (c :: cs) ↔ opens (c :: cs) ∨ HasOpening cs := by
  simp only [HasOpening, opens_iff, List.infix_cons_iff]
  constructor
  · rintro ⟨mark, hmark, h | h⟩
    · exact .inl ⟨mark, hmark, h⟩
    · exact .inr ⟨mark, hmark, h⟩
  · rintro (⟨mark, hmark, h⟩ | ⟨mark, hmark, h⟩)
    · exact ⟨mark, hmark, .inl h⟩
    · exact ⟨mark, hmark, .inr h⟩

theorem not_hasOpening_nil : ¬ HasOpening [] := by
  simp [HasOpening]

theorem not_hasOpening_untilOpening (cs : List Char) : ¬ HasOpening (untilOpening cs).1 := by
  induction cs with
  | nil => exact not_hasOpening_nil
  | cons c cs ih =>
    by_cases hc : opens (c :: cs)
    · simpa [untilOpening, hc] using not_hasOpening_nil
    · have hsplit := untilOpening_append cs
      simp only [untilOpening, hc, Bool.false_eq_true, if_false, hasOpening_cons, not_or]
      refine ⟨fun hopens => hc ?_, ih⟩
      -- What opens among the characters found also opens among all of them.
      obtain ⟨mark, hmark, hprefix⟩ := (opens_iff _).mp hopens
      refine (opens_iff _).mpr ⟨mark, hmark, hprefix.trans ?_⟩
      exact ⟨(untilOpening cs).2, by rw [List.cons_append, hsplit]⟩

/-- No tag and no comment opens in a text. -/
theorem finds_text : Scanner.Finds text fun cs => cs ≠ [] ∧ ¬ HasOpening cs := by
  intro cs lexeme rest h
  have hopening := not_hasOpening_untilOpening cs
  simp only [text] at h
  split at h
  · simp at h
  · next c found left hsplit =>
    obtain ⟨rfl, rfl⟩ := Prod.mk.inj (Option.some.inj h)
    rw [hsplit] at hopening
    exact ⟨List.cons_ne_nil _ _, hopening⟩

/-- The characters of a text and what follows it: either nothing follows, or a tag or a comment
opens, and then the text does not end with a brace, which would open something by itself. -/
def Borders (cs rest : List Char) : Prop :=
  rest = [] ∨ (opens rest ∧ cs.getLast? ≠ some '{')

theorem untilOpening_append_of_borders {cs rest : List Char} (hcs : ¬ HasOpening cs)
    (hborder : Borders cs rest) : untilOpening (cs ++ rest) = (cs, rest) := by
  induction cs with
  | nil =>
    rcases hborder with rfl | ⟨hopens, -⟩
    · rfl
    · cases rest with
      | nil => rfl
      | cons c rest => simp [untilOpening, hopens]
  | cons c cs ih =>
    rw [hasOpening_cons, not_or] at hcs
    obtain ⟨hc, hcs⟩ := hcs
    have hclosed : opens (c :: (cs ++ rest)) = false := by
      cases cs with
      | cons d cs => simpa [opens_cons_cons] using hc
      | nil =>
        rcases hborder with rfl | ⟨-, hlast⟩
        · exact Bool.eq_false_iff.mpr hc
        · have hbrace : c ≠ '{' := by simpa using hlast
          cases rest with
          | nil => exact Bool.eq_false_iff.mpr hc
          | cons d rest => simp [opens_cons_cons, hbrace]
    have hborder' : Borders cs rest := by
      rcases hborder with rfl | ⟨hopens, hlast⟩
      · exact .inl rfl
      · refine .inr ⟨hopens, fun hcs => hlast ?_⟩
        rw [List.getLast?_cons, hcs]
        rfl
    simp [untilOpening, hclosed, ih hcs hborder']

/-- Text without openings is found up to where something opens. -/
theorem text_append {cs rest : List Char} (hne : cs ≠ []) (hcs : ¬ HasOpening cs)
    (hborder : Borders cs rest) : text (cs ++ rest) = some (cs, rest) := by
  rw [text, untilOpening_append_of_borders hcs hborder]
  cases cs with
  | nil => exact absurd rfl hne
  | cons c cs => rfl

theorem text_eq_none {cs : List Char} (h : opens cs) : text cs = none := by
  cases cs with
  | nil => simp [opens] at h
  | cons c cs => simp [text, untilOpening, h]

/-- The characters before the next opening go all the way up to it. -/
theorem borders_untilOpening (cs : List Char) :
    Borders (untilOpening cs).1 (untilOpening cs).2 := by
  induction cs with
  | nil => exact .inl rfl
  | cons c cs ih =>
    by_cases hc : opens (c :: cs)
    · simp only [untilOpening, hc, if_true]
      exact .inr ⟨hc, by simp⟩
    · simp only [untilOpening, hc, Bool.false_eq_true, if_false]
      rcases ih with hend | ⟨hopens, hlast⟩
      · exact .inl hend
      · refine .inr ⟨hopens, ?_⟩
        have hsplit := untilOpening_append cs
        cases hfound : (untilOpening cs).1 with
        | cons d found =>
          rw [hfound] at hlast
          rwa [List.getLast?_cons_cons]
        | nil =>
          -- A single brace before what opens would open something itself.
          rw [hfound, List.nil_append] at hsplit
          rw [hsplit] at hopens
          rw [List.getLast?_singleton]
          rintro hbrace
          obtain rfl := Option.some.inj hbrace
          cases cs with
          | nil => simp [opens] at hopens
          | cons d cs =>
            refine hc ?_
            cases cs with
            | nil => simp [opens] at hopens
            | cons e cs =>
              have hd : d = '{' := by
                simp only [opens_cons_cons, Bool.and_eq_true, decide_eq_true_eq] at hopens
                exact hopens.1
              simp [opens_cons_cons, hd]

/-- A text is found only where nothing opens, and then as far as nothing does. -/
theorem borders_of_text {cs lexeme rest : List Char} (h : text cs = some (lexeme, rest)) :
    ¬ opens cs ∧ Borders lexeme rest := by
  constructor
  · intro hopens
    rw [text_eq_none hopens] at h
    cases h
  · have hborders := borders_untilOpening cs
    simp only [text] at h
    split at h
    · cases h
    · next c found left hsplit =>
      obtain ⟨rfl, rfl⟩ := Prod.mk.inj (Option.some.inj h)
      rwa [hsplit] at hborders

/-! ## Comments -/

theorem finds_commentRest :
    Scanner.Finds commentRest fun cs =>
      ∃ inner, ¬ ['#', '}'] <:+: inner ++ ['#'] ∧ cs = inner ++ ['#', '}'] := by
  intro cs
  fun_induction commentRest cs with
  | case1 => intro lexeme rest h; simp at h
  | case2 cs =>
    intro lexeme rest h
    obtain ⟨rfl, rfl⟩ := Prod.mk.inj (Option.some.inj h)
    exact ⟨[], fun h => by simpa using h.length_le, rfl⟩
  | case3 c cs hend ih =>
    intro lexeme rest h
    simp only [Option.map_eq_some_iff] at h
    obtain ⟨⟨found, left⟩, hfound, hpair⟩ := h
    obtain ⟨rfl, rfl⟩ := Prod.mk.inj hpair
    obtain ⟨inner, hinner, rfl⟩ := ih _ _ hfound
    refine ⟨c :: inner, fun hmark => ?_, rfl⟩
    rw [List.cons_append, List.infix_cons_iff] at hmark
    rcases hmark with hmark | hmark
    · -- An end mark in front would have been found.
      have hsplit := lossless_commentRest _ _ _ hfound
      obtain ⟨rfl, tail, htail⟩ := List.cons_prefix_cons.mp hmark
      refine hend (tail ++ '}' :: left) rfl ?_
      rw [← hsplit]
      simpa using congrArg (· ++ '}' :: left) htail.symm
    · exact hinner hmark

/-- Comments end with their first end mark. -/
theorem finds_comment :
    Scanner.Finds comment fun cs => ∃ inner, ¬ ['#', '}'] <:+: inner ++ ['#'] ∧
      cs = ['{', '#'] ++ (inner ++ ['#', '}']) := by
  refine ((finds_literal ['{', '#']).append finds_commentRest).imp ?_
  rintro cs ⟨mark, tail, rfl, rfl, inner, hinner, rfl⟩
  exact ⟨inner, hinner, rfl⟩

end Scan

end Stencil.Grammar
