import Stencil.Proofs.Grammar.Layout
import Stencil.Proofs.Grammar.Pairing

/-!
# Expressions between braces

An expression may be a source of its own, or stand between the braces of a template. A reader of
expressions cannot tell: the closing braces end whatever the end of the source would end, since no
part of an expression goes on with a brace, and a string literal that the source leaves open is not
closed by braces either. Only the positions differ, by the width of the opening braces on the first
line.

## Main definitions

* `Position.indent`: the position behind some characters that were put in front of the first line
* `Operand.mapPos`, `FilterCall.mapPos`, `FilterExpr.mapPos`: expressions with other positions
* `Scanner.Indifferent`: closing braces are as good as the end
* `Input.Enclosed`, `Reader.Alike`: two readers, of which the second reads between braces

## Main results

* `Scan.indifferent_path`, `Scan.indifferent_number`, `Scan.indifferent_keyword`,
  `Scan.indifferent_quoted`: the lexemes of expressions
* `alike_filterExpression`: expressions are read alike between braces
-/

namespace Stencil

open Grammar Scan Reader

/-! ## Moved positions -/

/-- The position behind `n` more characters on the first line. -/
def Position.indent (n : Nat) (p : Position) : Position :=
  if p.line = 1 then ⟨p.line, p.column + n⟩ else p

/-- The operand with its position changed. -/
def Operand.mapPos (f : Position → Position) (o : Operand) : Operand :=
  { o with pos := o.pos.map f }

/-- The filter call with its positions changed. -/
def FilterCall.mapPos (f : Position → Position) (call : FilterCall) : FilterCall :=
  ⟨call.name, call.arg.map (Operand.mapPos f), call.pos.map f⟩

/-- The expression with its positions changed. -/
def FilterExpr.mapPos (f : Position → Position) (e : FilterExpr) : FilterExpr :=
  ⟨e.base.mapPos f, e.filters.map (FilterCall.mapPos f)⟩

namespace Position

theorem advance_indent (n : Nat) {p : Position} (hp : 1 ≤ p.line) (c : Char) :
    (p.indent n).advance c = (p.advance c).indent n := by
  have hzero : p.line ≠ 0 := by omega
  by_cases hc : c = '\n'
  · -- A newline leaves the first line, and with it what was put in front of it.
    by_cases hline : p.line = 1
    · simp [indent, advance, hc, hline]
    · simp [indent, advance, hc, hline, hzero]
  · by_cases hline : p.line = 1
    · simp [indent, advance, hc, hline, Nat.add_right_comm]
    · simp [indent, advance, hc, hline]

theorem foldl_advance_indent (n : Nat) (cs : List Char) {p : Position} (hp : 1 ≤ p.line) :
    cs.foldl advance (p.indent n) = (cs.foldl advance p).indent n := by
  induction cs generalizing p with
  | nil => rfl
  | cons c cs ih =>
    rw [List.foldl_cons, List.foldl_cons, advance_indent n hp, ih]
    unfold advance
    split
    · exact Nat.le_add_left 1 p.line
    · exact hp

end Position

namespace Grammar

/-- The braces that stand before an expression. -/
def openingBraces : List Char := ['{', '{']

/-- The braces that stand behind an expression. -/
def closingBraces : List Char := ['}', '}']

/-- The opening braces take up two columns of the first line. -/
theorem position_past_openingBraces (before : List Char) :
    (Cursor.start.past (openingBraces ++ before)).position =
      (Cursor.start.past before).position.indent 2 := by
  have hmove := Position.foldl_advance_indent 2 before (p := Position.start) (Nat.le_refl 1)
  rw [Cursor.past_append, Cursor.position_past, Cursor.position_past _ before]
  exact hmove

/-! ## Scanners before closing braces -/

/-- What the scanner finds is the same whether the closing braces or nothing follow. -/
def Scanner.Indifferent (scan : Scanner) : Prop :=
  ∀ cs, scan (cs ++ closingBraces) =
    (scan cs).map fun (lexeme, rest) => (lexeme, rest ++ closingBraces)

namespace Scan

section Runs

variable {p : Char → Bool} (hp : p '}' = false) (cs : List Char)

include hp

theorem takeWhile_append_closingBraces : (cs ++ closingBraces).takeWhile p = cs.takeWhile p := by
  induction cs with
  | nil => simp [closingBraces, hp]
  | cons c cs ih => simp only [List.cons_append, List.takeWhile_cons, ih]

theorem dropWhile_append_closingBraces :
    (cs ++ closingBraces).dropWhile p = cs.dropWhile p ++ closingBraces := by
  induction cs with
  | nil => simp [closingBraces, hp]
  | cons c cs ih =>
    rw [List.cons_append, List.dropWhile_cons, List.dropWhile_cons, ih]
    split <;> rfl

end Runs

theorem indifferent_run1 {p : Char → Bool} (hp : p '}' = false) :
    Scanner.Indifferent (run1 p) := by
  intro cs
  cases cs with
  | nil => simp [run1, closingBraces, hp]
  | cons c cs =>
    rw [List.cons_append, run1, run1, takeWhile_append_closingBraces hp,
      dropWhile_append_closingBraces hp]
    split <;> rfl

theorem indifferent_blanks : Scanner.Indifferent blanks := by
  intro cs
  rw [blanks, run, takeWhile_append_closingBraces rfl, dropWhile_append_closingBraces rfl]
  rfl

theorem indifferent_literal {ds : List Char} (hds : '}' ∉ ds) :
    Scanner.Indifferent (literal ds) := by
  intro cs
  induction ds generalizing cs with
  | nil => rfl
  | cons d ds ih =>
    obtain ⟨hd, hds⟩ := List.ne_and_not_mem_of_not_mem_cons hds
    cases cs with
    | nil => simp [literal, closingBraces, hd]
    | cons c cs =>
      rw [List.cons_append, literal, literal, ih hds]
      split
      · rw [Option.map_map, Option.map_map]
        rfl
      · rfl

end Scan

namespace Scanner.Indifferent

variable {first second scan : Scanner}

theorem append (h₁ : Scanner.Indifferent first) (h₂ : Scanner.Indifferent second) :
    Scanner.Indifferent (Scan.append first second) := by
  intro cs
  rw [Scan.append, Scan.append, h₁ cs]
  cases first cs with
  | none => rfl
  | some found =>
    simp only [Option.map_some, h₂ found.2, Option.map_map]
    rfl

theorem either (h₁ : Scanner.Indifferent first) (h₂ : Scanner.Indifferent second) :
    Scanner.Indifferent (Scan.either first second) := by
  intro cs
  rw [Scan.either, Scan.either, h₁ cs]
  cases first cs with
  | none => exact h₂ cs
  | some found => rfl

theorem orEmpty (h : Scanner.Indifferent scan) : Scanner.Indifferent (Scan.orEmpty scan) := by
  intro cs
  rw [Scan.orEmpty, Scan.orEmpty, h cs]
  cases scan cs <;> rfl

theorem upTo (h : Scanner.Indifferent scan) (n : Nat) : Scanner.Indifferent (Scan.upTo scan n) := by
  induction n with
  | zero => exact fun cs => rfl
  | succ n ih => exact fun cs => (h.append ih).orEmpty cs

end Scanner.Indifferent

namespace Scan

/-- More fuel than there are characters changes nothing, if every lexeme takes up some. -/
theorem upTo_add {scan : Scanner}
    (hscan : ∀ cs lexeme rest, scan cs = some (lexeme, rest) → rest.length < cs.length)
    {n : Nat} (k : Nat) {cs : List Char} (hn : cs.length ≤ n) :
    upTo scan (n + k) cs = upTo scan n cs := by
  induction n generalizing cs with
  | zero =>
    -- No characters are left, so that no lexeme can be found with any fuel.
    obtain rfl := List.length_eq_zero_iff.mp (Nat.le_zero.mp hn)
    cases k with
    | zero => rfl
    | succ k =>
      refine orEmpty_of_none (append_eq_none (Option.eq_none_iff_forall_ne_some.mpr ?_))
      intro found hfound
      exact Nat.not_lt_zero _ (hscan _ _ _ hfound)
  | succ n ih =>
    rw [Nat.succ_add]
    show orEmpty (append scan (upTo scan (n + k))) cs = orEmpty (append scan (upTo scan n)) cs
    suffices append scan (upTo scan (n + k)) cs = append scan (upTo scan n) cs by
      rw [orEmpty, orEmpty, this]
    rw [append, append]
    cases hfound : scan cs with
    | none => rfl
    | some found =>
      have hrest := hscan _ _ _ hfound
      dsimp only
      rw [ih (by omega)]

theorem indifferent_identifier : Scanner.Indifferent identifier := by
  intro cs
  cases cs with
  | nil => rfl
  | cons c cs =>
    rw [List.cons_append, identifier, identifier, takeWhile_append_closingBraces rfl,
      dropWhile_append_closingBraces rfl]
    split <;> rfl

theorem indifferent_digits : Scanner.Indifferent digits :=
  indifferent_run1 rfl

theorem indifferent_segment : Scanner.Indifferent segment :=
  (indifferent_literal (by decide)).append (indifferent_identifier.either indifferent_digits)

theorem length_lt_of_segment (cs lexeme rest : List Char)
    (h : segment cs = some (lexeme, rest)) : rest.length < cs.length := by
  have hfinds := (finds_literal ['.']).append (finds_identifier.either finds_digits)
  obtain ⟨dot, s, rfl, rfl, -⟩ := hfinds _ _ _ h
  rw [← lossless_segment _ _ _ h, List.length_append, List.length_append, List.length_singleton]
  omega

theorem indifferent_path : Scanner.Indifferent path := by
  intro cs
  have hlong := indifferent_identifier.append (indifferent_segment.upTo (cs.length + 2)) cs
  rw [path, path, List.length_append]
  refine hlong.trans (congrArg _ ?_)
  -- The two more characters ahead are two more units of fuel, of which no use is made.
  rw [append, append]
  cases hname : identifier cs with
  | none => rfl
  | some found =>
    have hlength := congrArg List.length (lossless_identifier _ _ _ hname)
    rw [List.length_append] at hlength
    dsimp only
    rw [upTo_add length_lt_of_segment 2 (by omega)]

theorem indifferent_number : Scanner.Indifferent number :=
  (indifferent_literal (by decide)).orEmpty.append
    (indifferent_digits.append
      ((indifferent_literal (by decide)).append indifferent_digits).orEmpty)

theorem indifferent_keyword {word : List Char} (hword : '}' ∉ word) :
    Scanner.Indifferent (keyword word) := by
  intro cs
  rw [keyword, keyword, indifferent_literal hword cs]
  cases literal word cs with
  | none => rfl
  | some found =>
    obtain ⟨lexeme, rest⟩ := found
    cases rest with
    | nil => rfl
    | cons c rest =>
      simp only [Option.map_some, List.cons_append]
      split <;> rfl

/-- Braces close no string literal, not even if the first one is paired with a backslash. -/
theorem indifferent_quotedRest {quote : Char} (hquote : quote = '"' ∨ quote = '\'') :
    Scanner.Indifferent (quotedRest quote) := by
  intro cs
  induction cs using marks_induction with
  | nil => rcases hquote with rfl | rfl <;> rfl
  | lone =>
    -- The backslash takes the first brace along, and the second one closes nothing either.
    rcases hquote with rfl | rfl <;> rfl
  | pair c cs ih =>
    rw [List.cons_append, List.cons_append, quotedRest, quotedRest, ih, Option.map_map,
      Option.map_map]
    rfl
  | plain c cs hc ih =>
    rw [List.cons_append, quotedRest_cons hc, quotedRest_cons hc, ih]
    split
    · rfl
    · rw [Option.map_map, Option.map_map]
      rfl

theorem indifferent_quoted : Scanner.Indifferent quoted := by
  intro cs
  cases cs with
  | nil => rfl
  | cons c cs =>
    rw [List.cons_append, quoted, quoted]
    split
    · next hc =>
      rw [indifferent_quotedRest (by simpa using hc), Option.map_map, Option.map_map]
      rfl
    · rfl

end Scan

/-! ## Readers between braces -/

/-- The same characters lie ahead, once behind `before`, and once with braces around all of them. -/
inductive Input.Enclosed : Input → Input → Prop
  | intro (before ahead : List Char) :
      Enclosed ⟨Cursor.start.past before, ahead⟩
        ⟨Cursor.start.past (openingBraces ++ before), ahead ++ closingBraces⟩

namespace Reader

variable {α β γ δ : Type}

/-- Where `p` fails `q` fails between braces; and where `p` reads `a`, there `q` reads `g a` from
the same characters. -/
def Alike (g : α → β) (p : Reader α) (q : Reader β) : Prop :=
  ∀ i j, i.Enclosed j →
    ((p i).result = none ∧ (q j).result = none) ∨
    ∃ a i' j', (p i).result = some (a, i') ∧ (q j).result = some (g a, j') ∧ i'.Enclosed j'

namespace Alike

variable {g : α → β} {h : γ → δ} {p p' : Reader α} {q q' : Reader β} {f : α → Reader γ}
  {f' : β → Reader δ}

theorem pure (a : α) : Alike g (pure a) (pure (g a)) :=
  fun i j hij => .inr ⟨a, i, j, rfl, rfl, hij⟩

theorem bind (hp : Alike g p q) (hf : ∀ a, Alike h (f a) (f' (g a))) :
    Alike h (p >>= f) (q >>= f') := by
  intro i j hij
  rw [result_bind, result_bind]
  rcases hp i j hij with ⟨hi, hj⟩ | ⟨a, i', j', hi, hj, hnext⟩
  · rw [hi, hj]
    exact .inl ⟨rfl, rfl⟩
  · rw [hi, hj]
    exact hf a i' j' hnext

theorem bind_pure {f : α → γ} {f' : β → δ} (hp : Alike g p q) (hf : ∀ a, f' (g a) = h (f a)) :
    Alike h (p >>= fun a => Pure.pure (f a)) (q >>= fun b => Pure.pure (f' b)) := by
  refine hp.bind fun a => ?_
  rw [hf a]
  exact pure (f a)

theorem orElse (hp : Alike g p q) (hp' : Alike g p' q') : Alike g (p <|> p') (q <|> q') := by
  intro i j hij
  rw [result_orElse, result_orElse]
  rcases hp i j hij with ⟨hi, hj⟩ | ⟨a, i', j', hi, hj, hnext⟩
  · rw [hi, hj]
    exact hp' i j hij
  · rw [hi, hj]
    exact .inr ⟨a, i', j', rfl, rfl, hnext⟩

theorem tracked (rule : Rule) (hp : Alike g p q) :
    Alike g (p.tracked rule) (q.tracked rule) := by
  intro i j hij
  rw [result_tracked, result_tracked]
  exact hp i j hij

/-- Between braces positions are further to the right, on the first line. -/
theorem position : Alike (Position.indent 2) position position := by
  rintro _ _ ⟨before, ahead⟩
  refine .inr ⟨_, _, _, rfl, ?_, .intro before ahead⟩
  rw [result_position, position_past_openingBraces]

theorem lexeme {scan : Scanner} (hscan : scan.Indifferent) :
    Alike id (lexeme scan) (lexeme scan) := by
  rintro _ _ ⟨before, ahead⟩
  rw [result_lexeme, result_lexeme, hscan ahead]
  cases scan ahead with
  | none => exact .inl ⟨rfl, rfl⟩
  | some found =>
    obtain ⟨cs, rest⟩ := found
    refine .inr ⟨cs, _, _, rfl, rfl, ?_⟩
    rw [← Cursor.past_append, ← Cursor.past_append, List.append_assoc]
    exact .intro (before ++ cs) rest

theorem opt (hp : Alike g p q) : Alike (Option.map g) (opt p) (opt q) := by
  refine .orElse (.bind_pure hp fun a => ?_) (pure none)
  rfl

theorem symbol {s : String} (hs : '}' ∉ s.toList) : Alike id (symbol s) (symbol s) :=
  (lexeme (indifferent_literal hs)).bind_pure fun _ => rfl

theorem blanks : Alike id blanks blanks :=
  (lexeme indifferent_blanks).bind_pure fun _ => rfl

/-- Repetition is alike with fuel enough for what lies ahead, and any more. -/
theorem upTo (hp : Alike g p q)
    (hshort : ∀ i j, i.Enclosed j → ∀ a i', (p i).result = some (a, i') →
      i'.rest.length < i.rest.length)
    {n m : Nat} {i j : Input} (hij : i.Enclosed j) (hn : i.rest.length < n)
    (hm : i.rest.length < m) :
    ∃ found i' j', (p.upTo n i).result = some (found, i') ∧
      (q.upTo m j).result = some (found.map g, j') ∧ i'.Enclosed j' := by
  induction n generalizing m i j with
  | zero => exact absurd hn (Nat.not_lt_zero _)
  | succ n ih =>
    obtain ⟨m, rfl⟩ := Nat.exists_eq_succ_of_ne_zero (Nat.ne_zero_of_lt hm)
    rw [Reader.upTo, Reader.upTo, result_orElse, result_orElse, result_bind, result_bind]
    rcases hp i j hij with ⟨hi, hj⟩ | ⟨a, i', j', hi, hj, hnext⟩
    · rw [hi, hj]
      exact ⟨[], i, j, rfl, rfl, hij⟩
    · -- One character less lies ahead of the others.
      have hless := hshort i j hij a i' hi
      obtain ⟨found, i'', j'', hi', hj', hlast⟩ :=
        ih (m := m) hnext (by omega) (by omega)
      rw [hi, hj]
      simp only [Option.bind_some, result_bind, hi', hj', result_pure, Option.some_or]
      exact ⟨a :: found, i'', j'', rfl, rfl, hlast⟩

theorem many (hp : Alike g p q)
    (hshort : ∀ i j, i.Enclosed j → ∀ a i', (p i).result = some (a, i') →
      i'.rest.length < i.rest.length) :
    Alike (List.map g) p.many q.many := by
  rintro _ _ ⟨before, ahead⟩
  refine .inr (hp.upTo hshort (.intro before ahead) (Nat.lt_succ_self _) ?_)
  show ahead.length < (ahead ++ closingBraces).length + 1
  rw [List.length_append]
  omega

end Alike

end Reader

/-! ## Expressions -/

theorem alike_quotedString : Alike id quotedString quotedString :=
  .tracked _ ((Alike.lexeme indifferent_quoted).bind_pure fun _ => rfl)

theorem alike_number : Alike id number number :=
  .tracked _ ((Alike.lexeme indifferent_number).bind_pure fun _ => rfl)

theorem alike_boolLiteral : Alike id boolLiteral boolLiteral :=
  .tracked _ ((Alike.lexeme ((indifferent_keyword (by decide)).either
    (indifferent_keyword (by decide)))).bind_pure fun _ => rfl)

theorem alike_noneLiteral : Alike id noneLiteral noneLiteral :=
  .tracked _ ((Alike.lexeme (indifferent_keyword (by decide))).bind_pure fun _ => rfl)

theorem alike_path : Alike id path path :=
  .tracked _ ((Alike.lexeme indifferent_path).bind_pure fun _ => rfl)

theorem alike_identifier : Alike id identifier identifier :=
  .tracked _ ((Alike.lexeme indifferent_identifier).bind_pure fun _ => rfl)

theorem alike_operand : Alike (Operand.mapPos (.indent 2)) operand operand := by
  refine Alike.position.bind fun pos => Alike.bind_pure (g := id) ?_ fun _ => rfl
  exact alike_quotedString.orElse (alike_number.orElse (alike_boolLiteral.orElse
    (alike_noneLiteral.orElse alike_path)))

theorem alike_argument : Alike (Operand.mapPos (.indent 2)) argument argument :=
  (Alike.symbol (by decide)).bind fun _ => alike_operand

theorem alike_filterCall : Alike (FilterCall.mapPos (.indent 2)) filterCall filterCall :=
  .tracked _ (Alike.position.bind fun _ => alike_identifier.bind fun _ =>
    alike_argument.opt.bind_pure fun _ => rfl)

theorem alike_pipe : Alike (FilterCall.mapPos (.indent 2)) pipe pipe :=
  Alike.blanks.bind fun _ => (Alike.symbol (by decide)).bind fun _ =>
    Alike.blanks.bind fun _ => alike_filterCall

/-- A filter call takes up at least the bar before it. -/
theorem length_lt_of_pipe {i j : Input} (hij : i.Enclosed j) {call : FilterCall} {i' : Input}
    (h : (pipe i).result = some (call, i')) : i'.rest.length < i.rest.length := by
  obtain ⟨before, ahead⟩ := hij
  have hsource : (String.ofList (before ++ ahead)).toList = before ++ ahead := String.toList_ofList
  obtain ⟨cs, rfl, -, left, right, inner, -, -, -, rfl⟩ :=
    reads_pipe before ahead call i' hsource h
  have hbar : "|".toList.length = 1 := rfl
  simp only [List.length_append, hbar]
  omega

/-- **Expressions are read alike between braces**, up to their positions. -/
theorem alike_filterExpression :
    Alike (FilterExpr.mapPos (.indent 2)) filterExpression filterExpression :=
  .tracked _ (alike_operand.bind fun _ =>
    (alike_pipe.many fun _ _ hij _ _ => length_lt_of_pipe hij).bind_pure fun _ => rfl)

end Grammar

end Stencil
