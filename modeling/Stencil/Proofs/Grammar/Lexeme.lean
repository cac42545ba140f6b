import Stencil.Grammar.Expression
import Stencil.Grammar.Scan.Lossless
import Stencil.Proofs.Path.Dotted

/-!
# Forms of lexemes

Which characters make up a name, a number or a path is said here without a scanner. What a scanner
finds has the form in question; and where characters of that form are followed by none that could
prolong them, the scanner finds exactly these characters.

## Main definitions

* `IsIdentifier`, `IsDigits`, `IsSegment`, `IsDecimal`: names, numbers and segments of paths
* `Path.Regular`: the paths that can be spelled
* `Stops`: no character of a class comes next
* `Scanner.Finds`: a property of all lexemes of a scanner
* `decimal?`: the number that a text denotes if it is a decimal

## Main results

* `Scan.finds_identifier`, `Scan.finds_path`, `Scan.finds_number`: what is found has its form
* `Scan.identifier_append`, `Scan.path_append`, `Scan.number_append`: what has the form is found
* `Scan.parse?_of_path`, `Scan.decimal?_of_number`: what is found spells a path, or a number
-/

namespace Stencil

namespace Grammar

open Scan

/-! ## Forms -/

/-- Letters, digits and underscores, of which the first is not a digit. -/
def IsIdentifier : List Char → Prop
  | [] => False
  | c :: cs => isNameStart c ∧ ∀ d ∈ cs, isNamePart d

instance (cs : List Char) : Decidable (IsIdentifier cs) :=
  match cs with
  | [] => isFalse id
  | c :: cs => decidable_of_iff (isNameStart c ∧ cs.all isNamePart) (by simp [IsIdentifier])

/-- Decimal digits, at least one. -/
def IsDigits (cs : List Char) : Prop :=
  cs ≠ [] ∧ ∀ c ∈ cs, c.isDigit

instance (cs : List Char) : Decidable (IsDigits cs) :=
  decidable_of_iff (cs ≠ [] ∧ cs.all Char.isDigit) (by simp [IsDigits])

/-- A name or digits. -/
def IsSegment (cs : List Char) : Prop :=
  IsIdentifier cs ∨ IsDigits cs

instance (cs : List Char) : Decidable (IsSegment cs) :=
  inferInstanceAs (Decidable (IsIdentifier cs ∨ IsDigits cs))

/-- Decimal digits, perhaps with a sign in front, and perhaps with a dot and digits behind. -/
def IsDecimal (cs : List Char) : Prop :=
  ∃ sign whole places, cs = sign ++ (whole ++ places) ∧ (sign = [] ∨ sign = ['-']) ∧
    IsDigits whole ∧ (places = [] ∨ ∃ ds, IsDigits ds ∧ places = '.' :: ds)

/-- The number that a text denotes if it is a decimal: digits, with a dot among them and a minus
sign in front of them at most. -/
def decimal? (text : List Char) : Option Float :=
  let (whole, places) := decimalDigits text
  if IsDigits (whole ++ places) then some (numberOfDecimal text) else none

/-- No character with the property comes next. -/
def Stops (p : Char → Bool) (cs : List Char) : Prop :=
  ∀ c ∈ cs.head?, p c = false

/-- The characters that a path may go on with. -/
def isPathPart (c : Char) : Bool :=
  isNamePart c || c = '.'

/-- The characters that a number may go on with. -/
def isNumberPart (c : Char) : Bool :=
  c.isDigit || c = '.'

/-- All lexemes that the scanner finds have the property. -/
def Scanner.Finds (scan : Scanner) (P : List Char → Prop) : Prop :=
  ∀ cs lexeme rest, scan cs = some (lexeme, rest) → P lexeme

end Grammar

/-- A path that starts with a name and goes on with names and digits. -/
structure Path.Regular (p : Path) : Prop where
  head : Grammar.IsIdentifier p.head.toList
  rest : ∀ s ∈ p.rest, Grammar.IsSegment s.toList

namespace Grammar

open Scan

@[simp] theorem stops_nil (p : Char → Bool) : Stops p [] := by
  simp [Stops]

@[simp] theorem stops_cons (p : Char → Bool) (c : Char) (cs : List Char) :
    Stops p (c :: cs) ↔ p c = false := by
  simp [Stops]

theorem Stops.imp {p q : Char → Bool} {cs : List Char} (h : ∀ c, q c → p c) (hp : Stops p cs) :
    Stops q cs := by
  intro c hc
  refine Bool.eq_false_iff.mpr fun hq => ?_
  exact absurd (h c hq) (by simp [hp c hc])

/-! ## Characters of names -/

theorem isNamePart_of_isNameStart {c : Char} (h : isNameStart c) : isNamePart c := by
  simp only [isNameStart, isNamePart, Char.isAlphanum, Bool.or_eq_true, decide_eq_true_eq] at h ⊢
  rcases h with h | h
  · exact .inl (.inl h)
  · exact .inr h

theorem isNamePart_of_isDigit {c : Char} (h : c.isDigit) : isNamePart c := by
  simp [isNamePart, Char.isAlphanum, h]

theorem toNat_of_isDigit {c : Char} (h : c.isDigit) : 48 ≤ c.toNat ∧ c.toNat ≤ 57 := by
  simp only [Char.isDigit, Bool.and_eq_true, decide_eq_true_eq, UInt32.le_iff_toNat_le, ge_iff_le]
    at h
  exact h

theorem toNat_of_isAlpha {c : Char} (h : c.isAlpha) :
    65 ≤ c.toNat ∧ c.toNat ≤ 90 ∨ 97 ≤ c.toNat ∧ c.toNat ≤ 122 := by
  have halpha : c.isAlpha = (decide ('A'.val ≤ c.val ∧ c.val ≤ 'Z'.val) ||
    (c.val ≥ 'a'.val && c.val ≤ 'z'.val)) := rfl
  simp only [halpha, Bool.or_eq_true, Bool.and_eq_true, decide_eq_true_eq,
    UInt32.le_iff_toNat_le, ge_iff_le] at h
  exact h

/-- Where the characters of names are. -/
theorem toNat_of_isNamePart {c : Char} (h : isNamePart c) : 48 ≤ c.toNat ∧ c.toNat ≤ 122 := by
  simp only [isNamePart, Char.isAlphanum, Bool.or_eq_true, decide_eq_true_eq] at h
  rcases h with (h | h) | rfl
  · have := toNat_of_isAlpha h
    omega
  · have := toNat_of_isDigit h
    omega
  · decide

/-- No character of a path is blank. -/
theorem isBlank_eq_false_of_isPathPart {c : Char} (h : isPathPart c) : Text.isBlank c = false := by
  have hrange : 46 ≤ c.toNat ∧ c.toNat ≤ 122 := by
    simp only [isPathPart, Bool.or_eq_true, decide_eq_true_eq] at h
    rcases h with h | rfl
    · have := toNat_of_isNamePart h
      omega
    · decide
  -- Blanks come before these characters or behind them.
  simp only [Text.isBlank, Text.CodeRange.covers, Text.blankRanges, Text.CodeRange.contains,
    List.any_cons, List.any_nil, Bool.or_false, Bool.or_eq_false_iff, Bool.and_eq_false_iff,
    decide_eq_false_iff_not]
  omega

/-- No name starts with a digit. -/
theorem isNameStart_eq_false_of_isDigit {c : Char} (h : c.isDigit) : isNameStart c = false := by
  refine Bool.eq_false_iff.mpr fun hstart => ?_
  have hdigit := toNat_of_isDigit h
  simp only [isNameStart, Bool.or_eq_true, decide_eq_true_eq] at hstart
  rcases hstart with hstart | rfl
  · have := toNat_of_isAlpha hstart
    omega
  · exact absurd h (by decide)

theorem IsIdentifier.namePart {cs : List Char} (h : IsIdentifier cs) : ∀ c ∈ cs, isNamePart c := by
  cases cs with
  | nil => exact h.elim
  | cons c cs =>
    intro d hd
    rcases List.mem_cons.mp hd with rfl | hd
    · exact isNamePart_of_isNameStart h.1
    · exact h.2 d hd

theorem IsSegment.namePart {cs : List Char} (h : IsSegment cs) : ∀ c ∈ cs, isNamePart c := by
  rcases h with h | h
  · exact h.namePart
  · exact fun c hc => isNamePart_of_isDigit (h.2 c hc)

theorem IsSegment.ne_nil {cs : List Char} (h : IsSegment cs) : cs ≠ [] := by
  rcases h with h | h
  · rintro rfl
    exact h
  · exact h.1

/-- There is no dot in a segment. -/
theorem IsSegment.dot_not_mem {cs : List Char} (h : IsSegment cs) : '.' ∉ cs := fun hdot =>
  absurd (h.namePart '.' hdot) (by decide)

/-! ## Runs and fixed characters -/

section Runs

variable {p : Char → Bool} {cs rest : List Char}

theorem takeWhile_append_of_stops (hp : ∀ c ∈ cs, p c) (hr : Stops p rest) :
    (cs ++ rest).takeWhile p = cs := by
  rw [List.takeWhile_append_of_pos hp]
  cases rest with
  | nil => simp
  | cons c rest => simp [(stops_cons p c rest).mp hr]

theorem dropWhile_append_of_stops (hp : ∀ c ∈ cs, p c) (hr : Stops p rest) :
    (cs ++ rest).dropWhile p = rest := by
  rw [List.dropWhile_append_of_pos hp]
  cases rest with
  | nil => rfl
  | cons c rest => simp [(stops_cons p c rest).mp hr]

/-- A run that goes as far as it can ends where no character of its class comes next. -/
theorem stops_dropWhile (p : Char → Bool) (cs : List Char) : Stops p (cs.dropWhile p) := by
  intro c hc
  have hhead := List.head?_dropWhile_not p cs
  rw [Option.mem_def.mp hc] at hhead
  exact hhead

theorem Scan.finds_run1 (p : Char → Bool) :
    Scanner.Finds (run1 p) fun cs => cs ≠ [] ∧ ∀ c ∈ cs, p c := by
  intro cs lexeme rest h
  cases cs with
  | nil => simp [run1] at h
  | cons c cs =>
    by_cases hc : p c
    · simp only [run1, hc, if_true, Option.some.injEq, Prod.mk.injEq] at h
      obtain ⟨rfl, rfl⟩ := h
      refine ⟨List.cons_ne_nil _ _, ?_⟩
      simpa [hc] using List.all_eq_true.mp (List.all_takeWhile (p := p) (l := cs))
    · simp [run1, hc] at h

theorem Scan.run1_append (hne : cs ≠ []) (hp : ∀ c ∈ cs, p c) (hr : Stops p rest) :
    run1 p (cs ++ rest) = some (cs, rest) := by
  cases cs with
  | nil => exact absurd rfl hne
  | cons c cs =>
    have hcs : ∀ d ∈ cs, p d := fun d hd => hp d (List.mem_cons_of_mem c hd)
    rw [List.cons_append, run1, if_pos (hp c List.mem_cons_self),
      takeWhile_append_of_stops hcs hr, dropWhile_append_of_stops hcs hr]

theorem Scan.blanks_append (hp : ∀ c ∈ cs, isSpace c) (hr : Stops isSpace rest) :
    blanks (cs ++ rest) = some (cs, rest) := by
  rw [blanks, run, takeWhile_append_of_stops hp hr, dropWhile_append_of_stops hp hr]

theorem Scan.finds_blanks : Scanner.Finds blanks fun cs => ∀ c ∈ cs, isSpace c := by
  intro cs lexeme rest h
  obtain ⟨rfl, rfl⟩ := Prod.mk.inj (Option.some.inj h)
  exact List.all_eq_true.mp List.all_takeWhile

end Runs

namespace Scan

@[simp] theorem literal_append (ds rest : List Char) :
    literal ds (ds ++ rest) = some (ds, rest) := by
  induction ds with
  | nil => rfl
  | cons d ds ih => simp [literal, ih]

theorem finds_literal (ds : List Char) : Scanner.Finds (literal ds) (· = ds) := by
  induction ds with
  | nil =>
    intro cs lexeme rest h
    exact (Prod.mk.inj (Option.some.inj h)).1.symm
  | cons d ds ih =>
    intro cs lexeme rest h
    cases cs with
    | nil => simp [literal] at h
    | cons c cs =>
      by_cases hc : c = d
      · simp only [literal, hc, if_true, Option.map_eq_some_iff] at h
        obtain ⟨⟨found, left⟩, hfound, hpair⟩ := h
        obtain ⟨rfl, rfl⟩ := Prod.mk.inj hpair
        rw [ih _ _ _ hfound]
      · simp [literal, hc] at h

theorem literal_eq_none {ds cs : List Char} (h : ¬ ds <+: cs) : literal ds cs = none := by
  refine Option.eq_none_iff_forall_ne_some.mpr fun ⟨lexeme, rest⟩ hscan => h ?_
  have hlexeme := finds_literal ds _ _ _ hscan
  exact ⟨rest, hlexeme ▸ lossless_literal ds _ _ _ hscan⟩

end Scan

/-! ## Scanners made of scanners -/

namespace Scanner.Finds

variable {first second scan : Scanner} {P Q : List Char → Prop}

theorem append (h₁ : Scanner.Finds first P) (h₂ : Scanner.Finds second Q) :
    Scanner.Finds (Scan.append first second) fun cs => ∃ a b, cs = a ++ b ∧ P a ∧ Q b := by
  intro cs lexeme rest h
  simp only [Scan.append] at h
  split at h
  · simp at h
  · next a left ha =>
    simp only [Option.map_eq_some_iff] at h
    obtain ⟨⟨b, last⟩, hb, hpair⟩ := h
    obtain ⟨rfl, rfl⟩ := Prod.mk.inj hpair
    exact ⟨a, b, rfl, h₁ _ _ _ ha, h₂ _ _ _ hb⟩

theorem either (h₁ : Scanner.Finds first P) (h₂ : Scanner.Finds second Q) :
    Scanner.Finds (Scan.either first second) fun cs => P cs ∨ Q cs := by
  intro cs lexeme rest h
  simp only [Scan.either] at h
  split at h
  · next found hfound =>
    obtain rfl := Option.some.inj h
    exact .inl (h₁ _ _ _ hfound)
  · exact .inr (h₂ _ _ _ h)

theorem orEmpty (h₁ : Scanner.Finds scan P) :
    Scanner.Finds (Scan.orEmpty scan) fun cs => cs = [] ∨ P cs := by
  intro cs lexeme rest h
  simp only [Scan.orEmpty] at h
  split at h
  · next found hfound =>
    obtain rfl := Option.some.inj h
    exact .inr (h₁ _ _ _ hfound)
  · exact .inl (Prod.mk.inj (Option.some.inj h)).1.symm

theorem imp (h : Scanner.Finds scan P) (hPQ : ∀ cs, P cs → Q cs) : Scanner.Finds scan Q :=
  fun cs lexeme rest hscan => hPQ lexeme (h cs lexeme rest hscan)

end Scanner.Finds

namespace Scan

theorem append_eq_some {first second : Scanner} {a b rest : List Char}
    (h₁ : first (a ++ (b ++ rest)) = some (a, b ++ rest))
    (h₂ : second (b ++ rest) = some (b, rest)) :
    append first second (a ++ b ++ rest) = some (a ++ b, rest) := by
  rw [append, List.append_assoc, h₁]
  simp only [h₂, Option.map_some]

theorem append_eq_none {first second : Scanner} {cs : List Char} (h : first cs = none) :
    append first second cs = none := by
  rw [append, h]

theorem orEmpty_of_none {scan : Scanner} {cs : List Char} (h : scan cs = none) :
    orEmpty scan cs = some ([], cs) := by
  rw [orEmpty, h]

theorem orEmpty_of_some {scan : Scanner} {cs : List Char} {found : List Char × List Char}
    (h : scan cs = some found) : orEmpty scan cs = some found := by
  rw [orEmpty, h]

/-! ## Names and paths -/

theorem finds_identifier : Scanner.Finds identifier IsIdentifier := by
  intro cs lexeme rest h
  cases cs with
  | nil => simp [identifier] at h
  | cons c cs =>
    by_cases hc : isNameStart c
    · simp only [identifier, hc, if_true, Option.some.injEq, Prod.mk.injEq] at h
      obtain ⟨rfl, rfl⟩ := h
      exact ⟨hc, List.all_eq_true.mp List.all_takeWhile⟩
    · simp [identifier, hc] at h

theorem identifier_append {cs rest : List Char} (h : IsIdentifier cs)
    (hr : Stops isNamePart rest) : identifier (cs ++ rest) = some (cs, rest) := by
  cases cs with
  | nil => exact h.elim
  | cons c cs =>
    rw [List.cons_append, identifier, if_pos h.1, takeWhile_append_of_stops h.2 hr,
      dropWhile_append_of_stops h.2 hr]

theorem finds_digits : Scanner.Finds digits IsDigits :=
  finds_run1 Char.isDigit

theorem digits_append {cs rest : List Char} (h : IsDigits cs) (hr : Stops Char.isDigit rest) :
    digits (cs ++ rest) = some (cs, rest) :=
  run1_append h.1 h.2 hr

theorem identifier_eq_none_of_isDigits {cs rest : List Char} (h : IsDigits cs) :
    identifier (cs ++ rest) = none := by
  cases cs with
  | nil => exact absurd rfl h.1
  | cons c cs =>
    have hc := isNameStart_eq_false_of_isDigit (h.2 c List.mem_cons_self)
    simp [identifier, hc]

/-- There are no more items than characters, if every item has some; so a bound on the characters is
fuel enough for the items. -/
theorem length_le_length_flatMap {α : Type} {spelled : α → List Char} (hne : ∀ x, spelled x ≠ [])
    {items : List α} : items.length ≤ (items.flatMap spelled).length := by
  induction items with
  | nil => simp
  | cons x items ih =>
    have hx := List.length_pos_iff.mpr (hne x)
    rw [List.flatMap_cons, List.length_append, List.length_cons]
    omega

/-- Characters behind dots. -/
def dotted (segments : List (List Char)) : List Char :=
  segments.flatMap fun s => '.' :: s

/-- A name or digits are found behind a dot. -/
theorem segment_append {s rest : List Char} (h : IsSegment s) (hr : Stops isNamePart rest) :
    segment ('.' :: s ++ rest) = some ('.' :: s, rest) := by
  refine append_eq_some (a := ['.']) (literal_append ['.'] (s ++ rest)) ?_
  rw [either]
  rcases h with h | h
  · rw [identifier_append h hr]
  · rw [identifier_eq_none_of_isDigits h]
    exact digits_append h (hr.imp fun c => isNamePart_of_isDigit)

theorem segment_eq_none {cs : List Char} (h : Stops (· = '.') cs) : segment cs = none := by
  refine append_eq_none ?_
  cases cs with
  | nil => rfl
  | cons c cs =>
    have hc : c ≠ '.' := by simpa using h
    simp [literal, hc]

theorem finds_upTo_segment (n : Nat) :
    Scanner.Finds (upTo segment n) fun cs =>
      ∃ segments, (∀ s ∈ segments, IsSegment s) ∧ cs = dotted segments := by
  induction n with
  | zero =>
    intro cs lexeme rest h
    exact ⟨[], by simp, (Prod.mk.inj (Option.some.inj h)).1.symm⟩
  | succ n ih =>
    have hsegment := (finds_literal ['.']).append (finds_identifier.either finds_digits)
    refine fun cs => ((hsegment.append ih).orEmpty.imp ?_) cs
    rintro cs (rfl | ⟨a, b, rfl, ⟨dot, s, rfl, rfl, hs⟩, segments, hsegments, rfl⟩)
    · exact ⟨[], by simp, rfl⟩
    · exact ⟨s :: segments, List.forall_mem_cons.mpr ⟨hs, hsegments⟩, rfl⟩

theorem upTo_segment_append {segments : List (List Char)} {rest : List Char} {n : Nat}
    (hn : segments.length ≤ n) (hs : ∀ s ∈ segments, IsSegment s) (hr : Stops isPathPart rest) :
    upTo segment n (dotted segments ++ rest) = some (dotted segments, rest) := by
  induction segments generalizing n with
  | nil =>
    cases n with
    | zero => rfl
    | succ n =>
      refine orEmpty_of_none (append_eq_none (segment_eq_none (hr.imp fun c hc => ?_)))
      simp [isPathPart, of_decide_eq_true hc]
  | cons s segments ih =>
    cases n with
    | zero => simp at hn
    | succ n =>
      obtain ⟨hhead, htail⟩ := List.forall_mem_cons.mp hs
      -- A segment ends at the dot of the next one, or where the whole path ends.
      have hnext : Stops isNamePart (dotted segments ++ rest) := by
        cases segments with
        | nil => exact hr.imp fun c hc => by simp [isPathPart, hc]
        | cons t segments => exact (stops_cons _ _ _).mpr (by decide)
      refine orEmpty_of_some (append_eq_some (a := '.' :: s) (segment_append hhead hnext) ?_)
      exact ih (by simpa using hn) htail

end Scan

end Grammar

open Grammar

namespace Path

/-- The key of a path is its name and then its further segments behind dots. -/
theorem toList_key (p : Path) :
    p.key.toList = p.head.toList ++ Scan.dotted (p.rest.map String.toList) := by
  obtain ⟨head, rest⟩ := p
  unfold key segments
  induction rest generalizing head with
  | nil => simp [Text.joined, Scan.dotted]
  | cons s rest ih => simp [Text.joined, ih s, Scan.dotted]

theorem Regular.isSegment {p : Path} (h : p.Regular) : ∀ s ∈ p.segments, IsSegment s.toList :=
  List.forall_mem_cons.mpr ⟨.inl h.head, h.rest⟩

theorem Regular.plain {p : Path} (h : p.Regular) : p.Plain := fun s hs =>
  ⟨fun hempty => (h.isSegment s hs).ne_nil (String.toList_eq_nil_iff.mpr hempty),
    (h.isSegment s hs).dot_not_mem⟩

theorem Regular.dot_not_mem {p : Path} (h : p.Regular) : p.DotFree :=
  h.plain.dotFree

/-- **A regular path is read back from its key.** -/
theorem Regular.ofDotted_key {p : Path} (h : p.Regular) : ofDotted p.key = p := by
  rw [ofDotted, h.dot_not_mem.splitsInto_key.fields_eq]
  rfl

/-- The key of a regular path has only such characters as a path may have. -/
theorem Regular.isPathPart_of_mem_key {p : Path} (h : p.Regular) {c : Char}
    (hc : c ∈ p.key.toList) : isPathPart c := by
  have hname {s : List Char} (hs : IsSegment s) (hc : c ∈ s) : isPathPart c := by
    simp [isPathPart, hs.namePart c hc]
  rw [toList_key, List.mem_append] at hc
  rcases hc with hc | hc
  · exact hname (.inl h.head) hc
  · obtain ⟨s, hs, hc⟩ := List.mem_flatMap.mp hc
    obtain ⟨t, ht, rfl⟩ := List.mem_map.mp hs
    rcases List.mem_cons.mp hc with rfl | hc
    · decide
    · exact hname (h.rest t ht) hc

/-- The key of a regular path is a text that spells the path. -/
theorem Regular.parse?_key {p : Path} (h : p.Regular) : parse? p.key = some p := by
  refine parse?_eq_some_iff.mpr ⟨.of_forall fun c hc => ?_, h.plain⟩
  exact isBlank_eq_false_of_isPathPart (h.isPathPart_of_mem_key hc)

end Path

namespace Grammar

namespace Scan

theorem finds_path : Scanner.Finds path fun cs => ∃ p : Path, p.Regular ∧ p.key.toList = cs := by
  refine fun cs => ((finds_identifier.append (finds_upTo_segment cs.length)).imp ?_) cs
  rintro lexeme ⟨head, tail, rfl, hhead, segments, hsegments, rfl⟩
  refine ⟨⟨String.ofList head, segments.map String.ofList⟩, ⟨by simpa using hhead, ?_⟩, ?_⟩
  · intro s hs
    obtain ⟨t, ht, rfl⟩ := List.mem_map.mp hs
    simpa using hsegments t ht
  · simp [Path.toList_key, Function.comp_def]

/-- **What is found as a path spells one**: reading the path that the lexeme stands for cannot fail,
and gives the path between its dots. -/
theorem parse?_of_path {cs lexeme rest : List Char} (h : path cs = some (lexeme, rest)) :
    Path.parse? (String.ofList lexeme) = some (.ofDotted (String.ofList lexeme)) := by
  obtain ⟨p, hp, rfl⟩ := finds_path cs lexeme rest h
  rw [String.ofList_toList, hp.parse?_key, hp.ofDotted_key]

theorem path_append {p : Path} {rest : List Char} (hp : p.Regular) (hr : Stops isPathPart rest) :
    path (p.key.toList ++ rest) = some (p.key.toList, rest) := by
  have hsegments : ∀ s ∈ p.rest.map String.toList, IsSegment s := by
    intro s hs
    obtain ⟨t, ht, rfl⟩ := List.mem_map.mp hs
    exact hp.rest t ht
  rw [Path.toList_key]
  -- From here on only the characters count, no matter which strings they come from.
  generalize p.rest.map String.toList = segments at hsegments
  have hnext : Stops isNamePart (dotted segments ++ rest) := by
    cases segments with
    | nil => exact hr.imp fun c hc => by simp [isPathPart, hc]
    | cons t segments => exact (stops_cons _ _ _).mpr (by decide)
  refine append_eq_some (identifier_append hp.head hnext) (upTo_segment_append ?_ hsegments hr)
  have hlength : segments.length ≤ (dotted segments).length :=
    length_le_length_flatMap fun _ => List.cons_ne_nil _ _
  simp only [List.length_append]
  omega

/-- A name is found up to its last character. -/
theorem stops_of_identifier {cs lexeme rest : List Char}
    (h : identifier cs = some (lexeme, rest)) : Stops isNamePart rest := by
  cases cs with
  | nil => simp [identifier] at h
  | cons c cs =>
    by_cases hc : isNameStart c
    · simp only [identifier, hc, if_true, Option.some.injEq, Prod.mk.injEq] at h
      obtain ⟨-, rfl⟩ := h
      exact stops_dropWhile isNamePart cs
    · simp [identifier, hc] at h

/-- A path without dots is a name, and found up to its last character. A further segment may be
digits, and these end before a letter. -/
theorem stops_of_path {cs lexeme rest : List Char} (h : path cs = some (lexeme, rest))
    (hdot : '.' ∉ lexeme) : Stops isNamePart rest := by
  simp only [path, append] at h
  split at h
  · simp at h
  · next name left hname =>
    simp only [Option.map_eq_some_iff] at h
    obtain ⟨⟨tail, last⟩, htail, hpair⟩ := h
    obtain ⟨rfl, rfl⟩ := Prod.mk.inj hpair
    obtain ⟨segments, -, rfl⟩ := finds_upTo_segment _ _ _ _ htail
    cases segments with
    | cons s segments => exact absurd (List.mem_append_right name List.mem_cons_self) hdot
    | nil =>
      have hleft : last = left := lossless_segment.upTo _ _ _ _ htail
      rw [hleft]
      exact stops_of_identifier hname

/-! ## Numbers and keywords -/

theorem finds_number : Scanner.Finds number IsDecimal := by
  have hplaces := ((finds_literal ['.']).append finds_digits).orEmpty
  refine ((finds_literal ['-']).orEmpty.append (finds_digits.append hplaces)).imp ?_
  rintro cs ⟨sign, tail, rfl, hsign, whole, places, rfl, hwhole, hplaces⟩
  refine ⟨sign, whole, places, rfl, hsign, hwhole, hplaces.imp_right ?_⟩
  rintro ⟨dot, ds, rfl, rfl, hds⟩
  exact ⟨ds, hds, rfl⟩

/-- The digits of a decimal are those before and behind its dot. -/
theorem decimalDigits_append {sign whole places : List Char} (hsign : sign = [] ∨ sign = ['-'])
    (hwhole : IsDigits whole) (hplaces : places = [] ∨ ∃ ds, IsDigits ds ∧ places = '.' :: ds) :
    decimalDigits (sign ++ (whole ++ places)) = (whole, places.drop 1) := by
  have hunsigned : (if (sign ++ (whole ++ places)).head? = some '-'
      then (sign ++ (whole ++ places)).tail else sign ++ (whole ++ places)) = whole ++ places := by
    rcases hsign with rfl | rfl
    · cases whole with
      | nil => exact absurd rfl hwhole.1
      | cons c whole =>
        refine if_neg fun hc => ?_
        obtain rfl : c = '-' := Option.some.inj hc
        exact absurd (hwhole.2 '-' List.mem_cons_self) (by decide)
    · exact if_pos rfl
  have hdot : ∀ c ∈ whole, decide (c ≠ '.') = true := by
    rintro c hc
    refine decide_eq_true fun heq => ?_
    exact absurd (hwhole.2 c hc) (by rw [heq]; decide)
  rw [decimalDigits, hunsigned, List.takeWhile_append_of_pos hdot,
    List.dropWhile_append_of_pos hdot]
  rcases hplaces with rfl | ⟨ds, -, rfl⟩ <;> simp

/-- **What is found as a number spells one**: reading the number that the lexeme stands for cannot
fail. -/
theorem decimal?_of_number {cs lexeme rest : List Char} (h : number cs = some (lexeme, rest)) :
    decimal? lexeme = some (numberOfDecimal lexeme) := by
  obtain ⟨sign, whole, places, rfl, hsign, hwhole, hplaces⟩ := finds_number cs lexeme rest h
  have hdigits : IsDigits (whole ++ places.drop 1) := by
    refine ⟨List.append_ne_nil_of_left_ne_nil hwhole.1 _, fun c hc => ?_⟩
    rcases List.mem_append.mp hc with hc | hc
    · exact hwhole.2 c hc
    · rcases hplaces with rfl | ⟨ds, hds, rfl⟩
      · cases hc
      · exact hds.2 c hc
  rw [decimal?, decimalDigits_append hsign hwhole hplaces]
  exact if_pos hdigits

theorem number_append {cs rest : List Char} (h : IsDecimal cs) (hr : Stops isNumberPart rest) :
    number (cs ++ rest) = some (cs, rest) := by
  obtain ⟨sign, whole, places, rfl, hsign, hwhole, hplaces⟩ := h
  have hdigit : Stops Char.isDigit rest := hr.imp fun c hc => by simp [isNumberPart, hc]
  have hnext : Stops Char.isDigit (places ++ rest) := by
    rcases hplaces with rfl | ⟨ds, -, rfl⟩
    · exact hdigit
    · exact (stops_cons _ _ _).mpr (by decide)
  refine append_eq_some ?_ (append_eq_some (digits_append hwhole hnext) ?_)
  · rcases hsign with rfl | rfl
    · -- No sign is found in front of a digit.
      refine orEmpty_of_none ?_
      obtain ⟨hne, hall⟩ := hwhole
      cases whole with
      | nil => exact absurd rfl hne
      | cons c whole =>
        have hc : c ≠ '-' := by
          rintro rfl
          exact absurd (hall '-' List.mem_cons_self) (by decide)
        simp [literal, hc]
    · exact orEmpty_of_some (literal_append ['-'] _)
  · rcases hplaces with rfl | ⟨ds, hds, rfl⟩
    · -- Nor is a point found behind the last digit: it would be part of the number.
      refine orEmpty_of_none (append_eq_none ?_)
      cases rest with
      | nil => rfl
      | cons c rest =>
        have hc : c ≠ '.' := by
          rintro rfl
          exact absurd ((stops_cons _ _ _).mp hr) (by decide)
        simp [literal, hc]
    · refine orEmpty_of_some ?_
      exact append_eq_some (a := ['.']) (literal_append ['.'] _) (digits_append hds hdigit)

theorem finds_keyword (word : List Char) : Scanner.Finds (keyword word) (· = word) := by
  intro cs lexeme rest h
  simp only [keyword] at h
  split at h
  · next found hfound =>
    obtain ⟨rfl, rfl⟩ := Prod.mk.inj (Option.some.inj h)
    exact finds_literal word _ _ _ hfound
  · next found c left hfound =>
    split at h
    · simp at h
    · obtain ⟨rfl, rfl⟩ := Prod.mk.inj (Option.some.inj h)
      exact finds_literal word _ _ _ hfound
  · simp at h

theorem keyword_append (word : List Char) {rest : List Char} (hr : Stops isPathPart rest) :
    keyword word (word ++ rest) = some (word, rest) := by
  rw [keyword, literal_append]
  cases rest with
  | nil => rfl
  | cons c rest =>
    have hc : (isNamePart c || decide (c = '.')) = false := (stops_cons _ _ _).mp hr
    simp [hc]

/-- A word is a keyword only where no path goes on from it. -/
theorem stops_of_keyword {word cs lexeme rest : List Char}
    (h : keyword word cs = some (lexeme, rest)) : Stops isPathPart rest := by
  simp only [keyword] at h
  split at h
  · next found hfound =>
    obtain ⟨rfl, rfl⟩ := Prod.mk.inj (Option.some.inj h)
    exact stops_nil _
  · next found c left hfound =>
    split at h
    · simp at h
    · next hc =>
      obtain ⟨rfl, rfl⟩ := Prod.mk.inj (Option.some.inj h)
      exact (stops_cons _ _ _).mpr (by simpa [isPathPart] using hc)
  · simp at h

/-- A path that is not the keyword is not taken for it, whatever it starts with. -/
theorem keyword_eq_none {word rest : List Char} {p : Path} (hp : p.Regular)
    (hr : Stops isPathPart rest) (hword : IsIdentifier word) (hne : p.key.toList ≠ word) :
    keyword word (p.key.toList ++ rest) = none := by
  refine Option.eq_none_iff_forall_ne_some.mpr fun ⟨lexeme, left⟩ h => hne ?_
  have hlexeme := finds_keyword word _ _ _ h
  have hsplit := lossless_keyword word _ _ _ h
  subst hlexeme
  -- The keyword is a path too, and paths are read as far as they go.
  have hkey : (⟨String.ofList lexeme, []⟩ : Path).key.toList = lexeme := by
    simp [Path.toList_key, dotted]
  have hregular : (⟨String.ofList lexeme, []⟩ : Path).Regular := ⟨by simpa using hword, by simp⟩
  have hshort := path_append hregular (stops_of_keyword h)
  rw [hkey, hsplit, path_append hp hr] at hshort
  exact (Prod.mk.inj (Option.some.inj hshort)).1

end Scan

end Grammar

end Stencil
