import Stencil.Grammar.Scan

/-!
# Scanners lose nothing

A scanner splits the characters ahead: the lexeme and the rest, one behind the other, are what it
was given.

## Main definitions

* `Scanner.Lossless`: the lexeme and the rest make up the input

## Main results

* `Scan.lossless_identifier`, `Scan.lossless_path`, `Scan.lossless_number`, `Scan.lossless_quoted`,
  `Scan.lossless_text`, `Scan.lossless_comment`: the lexemes of the grammar
-/

namespace Stencil.Grammar

/-- The lexeme and the rest, one behind the other, are the input. -/
def Scanner.Lossless (scan : Scanner) : Prop :=
  ∀ cs lexeme rest, scan cs = some (lexeme, rest) → lexeme ++ rest = cs

namespace Scan

theorem lossless_run1 (p : Char → Bool) : Scanner.Lossless (run1 p) := by
  intro cs lexeme rest h
  cases cs with
  | nil => simp [run1] at h
  | cons c cs =>
    by_cases hc : p c
    · simp only [run1, hc, if_true, Option.some.injEq, Prod.mk.injEq] at h
      obtain ⟨rfl, rfl⟩ := h
      rw [List.cons_append, List.takeWhile_append_dropWhile]
    · simp [run1, hc] at h

theorem lossless_literal (ds : List Char) : Scanner.Lossless (literal ds) := by
  induction ds with
  | nil =>
    intro cs lexeme rest h
    simp only [literal, Option.some.injEq, Prod.mk.injEq] at h
    obtain ⟨rfl, rfl⟩ := h
    rfl
  | cons d ds ih =>
    intro cs lexeme rest h
    cases cs with
    | nil => simp [literal] at h
    | cons c cs =>
      by_cases hc : c = d
      · simp only [literal, hc, if_true, Option.map_eq_some_iff] at h
        obtain ⟨⟨found, left⟩, hfound, hpair⟩ := h
        obtain ⟨rfl, rfl⟩ := Prod.mk.inj hpair
        rw [List.cons_append, ih _ _ _ hfound, hc]
      · simp [literal, hc] at h

end Scan

namespace Scanner.Lossless

theorem append {first second : Scanner} (h₁ : Scanner.Lossless first)
    (h₂ : Scanner.Lossless second) : Scanner.Lossless (Scan.append first second) := by
  intro cs lexeme rest h
  simp only [Scan.append] at h
  split at h
  · simp at h
  · next a left ha =>
    simp only [Option.map_eq_some_iff] at h
    obtain ⟨⟨b, last⟩, hb, hpair⟩ := h
    obtain ⟨rfl, rfl⟩ := Prod.mk.inj hpair
    rw [List.append_assoc, h₂ _ _ _ hb, h₁ _ _ _ ha]

theorem either {first second : Scanner} (h₁ : Scanner.Lossless first)
    (h₂ : Scanner.Lossless second) : Scanner.Lossless (Scan.either first second) := by
  intro cs lexeme rest h
  simp only [Scan.either] at h
  split at h
  · next found hfound =>
    obtain rfl := Option.some.inj h
    exact h₁ _ _ _ hfound
  · exact h₂ _ _ _ h

theorem orEmpty {scan : Scanner} (h₁ : Scanner.Lossless scan) :
    Scanner.Lossless (Scan.orEmpty scan) := by
  intro cs lexeme rest h
  simp only [Scan.orEmpty] at h
  split at h
  · next found hfound =>
    obtain rfl := Option.some.inj h
    exact h₁ _ _ _ hfound
  · obtain ⟨rfl, rfl⟩ := Prod.mk.inj (Option.some.inj h)
    rfl

theorem upTo {scan : Scanner} (h₁ : Scanner.Lossless scan) (n : Nat) :
    Scanner.Lossless (Scan.upTo scan n) := by
  induction n with
  | zero =>
    intro cs lexeme rest h
    obtain ⟨rfl, rfl⟩ := Prod.mk.inj (Option.some.inj h)
    rfl
  | succ n ih => exact fun cs => (h₁.append ih).orEmpty cs

end Scanner.Lossless

namespace Scan

theorem lossless_blanks : Scanner.Lossless blanks := by
  intro cs lexeme rest h
  obtain ⟨rfl, rfl⟩ := Prod.mk.inj (Option.some.inj h)
  exact List.takeWhile_append_dropWhile

theorem lossless_blanks1 : Scanner.Lossless blanks1 :=
  lossless_run1 isSpace

theorem lossless_digits : Scanner.Lossless digits :=
  lossless_run1 Char.isDigit

theorem lossless_identifier : Scanner.Lossless identifier := by
  intro cs lexeme rest h
  cases cs with
  | nil => simp [identifier] at h
  | cons c cs =>
    by_cases hc : isNameStart c
    · simp only [identifier, hc, if_true, Option.some.injEq, Prod.mk.injEq] at h
      obtain ⟨rfl, rfl⟩ := h
      rw [List.cons_append, List.takeWhile_append_dropWhile]
    · simp [identifier, hc] at h

theorem lossless_segment : Scanner.Lossless segment :=
  (lossless_literal _).append (lossless_identifier.either lossless_digits)

theorem lossless_path : Scanner.Lossless path := fun cs =>
  lossless_identifier.append (lossless_segment.upTo cs.length) cs

theorem lossless_number : Scanner.Lossless number :=
  (lossless_literal _).orEmpty.append
    (lossless_digits.append ((lossless_literal _).append lossless_digits).orEmpty)

theorem lossless_keyword (word : List Char) : Scanner.Lossless (keyword word) := by
  intro cs lexeme rest h
  simp only [keyword] at h
  split at h
  · next found hfound =>
    obtain ⟨rfl, rfl⟩ := Prod.mk.inj (Option.some.inj h)
    exact lossless_literal word _ _ _ hfound
  · next found c left hfound =>
    split at h
    · simp at h
    · obtain ⟨rfl, rfl⟩ := Prod.mk.inj (Option.some.inj h)
      exact lossless_literal word _ _ _ hfound
  · simp at h

theorem lossless_quotedRest (quote : Char) : Scanner.Lossless (quotedRest quote) := by
  intro cs
  fun_induction quotedRest quote cs with
  | case1 => intro lexeme rest h; simp at h
  | case2 c cs ih =>
    intro lexeme rest h
    simp only [Option.map_eq_some_iff] at h
    obtain ⟨⟨found, left⟩, hfound, hpair⟩ := h
    obtain ⟨rfl, rfl⟩ := Prod.mk.inj hpair
    rw [List.cons_append, List.cons_append, ih _ _ hfound]
  | case3 cs hshield =>
    intro lexeme rest h
    obtain ⟨rfl, rfl⟩ := Prod.mk.inj (Option.some.inj h)
    rfl
  | case4 c cs hshield hc ih =>
    intro lexeme rest h
    simp only [Option.map_eq_some_iff] at h
    obtain ⟨⟨found, left⟩, hfound, hpair⟩ := h
    obtain ⟨rfl, rfl⟩ := Prod.mk.inj hpair
    rw [List.cons_append, ih _ _ hfound]

theorem lossless_quoted : Scanner.Lossless quoted := by
  intro cs lexeme rest h
  cases cs with
  | nil => simp [quoted] at h
  | cons c cs =>
    simp only [quoted] at h
    split at h
    · simp only [Option.map_eq_some_iff] at h
      obtain ⟨⟨found, left⟩, hfound, hpair⟩ := h
      obtain ⟨rfl, rfl⟩ := Prod.mk.inj hpair
      rw [List.cons_append, lossless_quotedRest c _ _ _ hfound]
    · simp at h

/-- Nothing is lost before the next tag or comment. -/
theorem untilOpening_append (cs : List Char) : (untilOpening cs).1 ++ (untilOpening cs).2 = cs := by
  induction cs with
  | nil => rfl
  | cons c cs ih =>
    by_cases h : opens (c :: cs)
    · simp [untilOpening, h]
    · simp only [untilOpening, h, Bool.false_eq_true, if_false, List.cons_append, ih]

theorem lossless_text : Scanner.Lossless text := by
  intro cs lexeme rest h
  have hall := untilOpening_append cs
  simp only [text] at h
  split at h
  · simp at h
  · next c found left hsplit =>
    obtain ⟨rfl, rfl⟩ := Prod.mk.inj (Option.some.inj h)
    rw [hsplit] at hall
    exact hall

theorem lossless_commentRest : Scanner.Lossless commentRest := by
  intro cs
  fun_induction commentRest cs with
  | case1 => intro lexeme rest h; simp at h
  | case2 cs =>
    intro lexeme rest h
    obtain ⟨rfl, rfl⟩ := Prod.mk.inj (Option.some.inj h)
    rfl
  | case3 c cs hend ih =>
    intro lexeme rest h
    simp only [Option.map_eq_some_iff] at h
    obtain ⟨⟨found, left⟩, hfound, hpair⟩ := h
    obtain ⟨rfl, rfl⟩ := Prod.mk.inj hpair
    rw [List.cons_append, ih _ _ hfound]

theorem lossless_comment : Scanner.Lossless comment :=
  (lossless_literal _).append lossless_commentRest

end Scan

end Stencil.Grammar
