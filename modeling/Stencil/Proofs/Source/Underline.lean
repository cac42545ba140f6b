import Stencil.Proofs.Source.Boundary
import Stencil.Proofs.Source.Lines

/-!
# Underlined spans

A diagnostic shows the line in which its span starts, and carets in the row below. The carets
start under the first character of the span as long as the line number fits its margin, and there
are as many of them as the span has bytes.

## Main definitions

* `Span.before`, `Span.onward`, `Span.chars`: the characters around and in a span
* `Diagnostic.sourceRow`, `Diagnostic.pointerRow`: the line that is shown and the row below it

## Main results

* `Diagnostic.format_eq_rows`: a diagnostic is made of rows
* `Span.byteCount_chars`: the bytes of a span are those of its characters
* `format_underlines_bytes`: where the carets stand, and how many there are
-/

namespace Stencil

/-! ## Characters of a span -/

/-- Characters take up at least a byte each. -/
theorem length_le_byteCount (cs : List Char) : cs.length ≤ byteCount cs := by
  induction cs with
  | nil => exact Nat.le_refl 0
  | cons c cs ih =>
    have hc := c.utf8Size_pos
    rw [byteCount, List.length_cons]
    omega

/-- There are as many bytes as characters if every character takes up one byte. -/
theorem byteCount_eq_length_iff {cs : List Char} :
    byteCount cs = cs.length ↔ ∀ c ∈ cs, c.utf8Size = 1 := by
  induction cs with
  | nil => simp [byteCount]
  | cons c cs ih =>
    have hc := c.utf8Size_pos
    have hcs := length_le_byteCount cs
    rw [List.forall_mem_cons, ← ih, byteCount, List.length_cons]
    omega

theorem max_one_byteCount_eq_iff {cs : List Char} :
    max 1 (byteCount cs) = max 1 cs.length ↔ ∀ c ∈ cs, c.utf8Size = 1 := by
  have hcs := length_le_byteCount cs
  rw [← byteCount_eq_length_iff]
  cases cs with
  | nil => exact iff_of_true rfl rfl
  | cons c cs =>
    rw [List.length_cons] at hcs ⊢
    omega

namespace Span

/-- The characters of a source before a span. -/
def before (span : Span) (source : String) : List Char :=
  leading span.start source.toList

/-- The characters of a source from the start of a span on. -/
def onward (span : Span) (source : String) : List Char :=
  source.toList.drop (span.before source).length

/-- The characters of a span. -/
def chars (span : Span) (source : String) : List Char :=
  (leading span.stop source.toList).drop (span.before source).length

variable {span : Span} {source : String}

theorem leading_of_isValid {n : Nat} (h : String.Pos.Raw.IsValid source ⟨n⟩) :
    n = byteCount (leading n source.toList) ∧ leading n source.toList <+: source.toList := by
  obtain ⟨cs, ahead, hsource, rfl⟩ := isValid_iff_exists_byteCount.mp h
  rw [hsource, leading_append]
  exact ⟨rfl, List.prefix_append cs ahead⟩

theorem before_append_onward (h : String.Pos.Raw.IsValid source ⟨span.start⟩) :
    span.before source ++ span.onward source = source.toList :=
  List.prefix_iff_eq_append.mp (leading_of_isValid h).2

/-- **The bytes of a span** are those of its characters. -/
theorem byteCount_chars (hstart : String.Pos.Raw.IsValid source ⟨span.start⟩)
    (hstop : String.Pos.Raw.IsValid source ⟨span.stop⟩) :
    byteCount (span.chars source) = span.stop - span.start := by
  obtain ⟨hstart, hbefore⟩ := leading_of_isValid hstart
  obtain ⟨hstop, hupto⟩ := leading_of_isValid hstop
  unfold chars before
  rcases List.prefix_or_prefix_of_prefix hbefore hupto with ⟨cs, hcs⟩ | ⟨cs, hcs⟩
  · rw [← hcs, List.drop_left]
    rw [← hcs, byteCount_append] at hstop
    omega
  · -- A span that stops before it starts has no characters.
    rw [← hcs, byteCount_append] at hstart
    rw [List.drop_eq_nil_of_le (by rw [← hcs, List.length_append]; omega), byteCount]
    omega

end Span

namespace Diagnostic

/-! ## Rows of a diagnostic -/

/-- The rows above the source line. -/
def heading (d : Diagnostic) (source : String) (name : Option String) : String :=
  let place := Position.ofOffset source d.span.start
  "Error: " ++ d.message ++ "\n --> " ++ (name.elim "" (· ++ ":")) ++ place.text ++ "\n  |"

/-- The row with the source line. -/
def sourceRow (d : Diagnostic) (source : String) : String :=
  let line := (Position.ofOffset source d.span.start).line
  lineNumber line ++ " | " ++ sourceLine source line

/-- The row with the carets. -/
def pointerRow (d : Diagnostic) (source : String) : String :=
  "    | " ++ d.pointer (Position.ofOffset source d.span.start).column

/-- The row with the hint, if there is one. -/
def footing (d : Diagnostic) : String :=
  d.hint.elim "" ("\n  = hint: " ++ ·)

theorem format_eq_rows (d : Diagnostic) (source : String) (name : Option String) :
    d.format source name = d.heading source name ++ "\n" ++ d.sourceRow source ++ "\n" ++
      d.pointerRow source ++ d.footing := by
  rw [← String.toList_inj]
  unfold format heading sourceRow pointerRow footing
  cases name <;> cases d.hint <;> simp

/-! ## Margins -/

theorem toList_lineNumber (line : Nat) :
    (lineNumber line).toList =
      List.replicate (3 - (Nat.toDigits 10 line).length) ' ' ++ Nat.toDigits 10 line := by
  have hlength : (toString line).length = (Nat.toDigits 10 line).length := by
    rw [Nat.toString_eq_ofList_toDigits, String.length_ofList]
  rw [lineNumber, hlength, Text.copies, String.toList_append, String.toList_ofList,
    Nat.toString_eq_ofList_toDigits, String.toList_ofList]

theorem newline_not_mem_lineNumber (line : Nat) : '\n' ∉ (lineNumber line).toList := by
  rw [toList_lineNumber, List.mem_append, List.mem_replicate]
  rintro (⟨-, hspace⟩ | hdigit)
  · exact absurd hspace (by decide)
  · exact absurd (Nat.isDigit_of_mem_toDigits (by decide) (by decide) hdigit) (by decide)

/-- Line numbers of more than three digits exceed their margin. -/
theorem length_lineNumber (line : Nat) :
    (lineNumber line).toList.length = 3 + ((Nat.toDigits 10 line).length - 3) := by
  rw [toList_lineNumber, List.length_append, List.length_replicate]
  omega

/-! ## Carets -/

section Rows

variable {source : String} {d : Diagnostic}

/-- The source row shows the line of the span behind the line number. -/
theorem exists_toList_sourceRow (hstart : String.Pos.Raw.IsValid source ⟨d.span.start⟩)
    (hline : restOfLine (d.span.onward source) ≠ []) :
    ∃ shown, (d.sourceRow source).toList = shown ++ restOfLine (d.span.onward source) ∧
      '\n' ∉ shown ∧
      shown.length = 6 + (lastLine (d.span.before source)).length +
        ((Nat.toDigits 10 (Position.ofOffset source d.span.start).line).length - 3) := by
  have hsource : sourceLine source (Position.ofOffset source d.span.start).line =
      String.ofList (lastLine (d.span.before source) ++ restOfLine (d.span.onward source)) :=
    sourceLine_eq (d.span.before_append_onward hstart).symm hline
  refine ⟨(lineNumber (Position.ofOffset source d.span.start).line).toList ++ " | ".toList ++
    lastLine (d.span.before source), ?_, ?_, ?_⟩
  · simp [sourceRow, hsource]
  · simp [newline_not_mem_lineNumber, newline_not_mem_lastLine]
  · have hbar : " | ".toList.length = 3 := rfl
    rw [List.length_append, List.length_append, length_lineNumber, hbar]
    omega

/-- The pointer row has a space for every character before the span, and carets behind them. -/
theorem exists_toList_pointerRow (d : Diagnostic) (source : String) :
    ∃ gap, (d.pointerRow source).toList =
        gap ++ List.replicate (max 1 (d.span.stop - d.span.start)) '^' ∧
      '^' ∉ gap ∧ '\n' ∉ gap ∧ gap.length = 6 + (lastLine (d.span.before source)).length := by
  have hcolumn : (Position.ofOffset source d.span.start).column =
      (lastLine (d.span.before source)).length + 1 := by
    rw [Position.ofOffset, Position.after_eq]
    rfl
  refine ⟨"    | ".toList ++ List.replicate (lastLine (d.span.before source)).length ' ',
    ?_, ?_, ?_, ?_⟩
  · simp [pointerRow, pointer, Text.copies, hcolumn]
  · simp [List.mem_replicate]
  · simp [List.mem_replicate]
  · rw [List.length_append, List.length_replicate]
    rfl

end Rows

end Diagnostic

/-- **Where the carets stand, and how many there are.** A diagnostic about a span that starts
before the end of its line shows that line, with the carets in the row below. They start under the
first character of the span exactly if the line number has at most three digits; a longer one moves
the line, and not the carets, to the right. There is a caret for every byte of the span, which is
one for every character exactly if all of them take up one byte. -/
theorem format_underlines_bytes {source : String} {d : Diagnostic} (name : Option String)
    (hstart : String.Pos.Raw.IsValid source ⟨d.span.start⟩)
    (hstop : String.Pos.Raw.IsValid source ⟨d.span.stop⟩)
    (hline : restOfLine (d.span.onward source) ≠ []) :
    d.format source name = d.heading source name ++ "\n" ++ d.sourceRow source ++ "\n" ++
      d.pointerRow source ++ d.footing ∧
    '\n' ∉ (d.sourceRow source).toList ∧ '\n' ∉ (d.pointerRow source).toList ∧
    ∃ shown gap carets,
      (d.sourceRow source).toList = shown ++ restOfLine (d.span.onward source) ∧
      (d.pointerRow source).toList = gap ++ List.replicate carets '^' ∧ '^' ∉ gap ∧
      shown.length = gap.length +
        ((Nat.toDigits 10 (Position.ofOffset source d.span.start).line).length - 3) ∧
      (gap.length = shown.length ↔ (Position.ofOffset source d.span.start).line < 1000) ∧
      carets = max 1 (byteCount (d.span.chars source)) ∧
      (carets = max 1 (d.span.chars source).length ↔
        ∀ c ∈ d.span.chars source, c.utf8Size = 1) := by
  obtain ⟨shown, habove, hshown, hshownLength⟩ := d.exists_toList_sourceRow hstart hline
  obtain ⟨gap, hbelow, hcaret, hgap, hgapLength⟩ := d.exists_toList_pointerRow source
  have hdigits : (Nat.toDigits 10 (Position.ofOffset source d.span.start).line).length ≤ 3 ↔
      (Position.ofOffset source d.span.start).line < 10 ^ 3 :=
    Nat.length_toDigits_le_iff (by decide) (by decide)
  rw [← d.span.byteCount_chars hstart hstop] at hbelow
  refine ⟨d.format_eq_rows source name, ?_, ?_, shown, gap, _, habove, hbelow, hcaret, by omega,
    by omega, rfl, max_one_byteCount_eq_iff⟩
  · rw [habove, List.mem_append]
    exact not_or.mpr ⟨hshown, newline_not_mem_restOfLine _⟩
  · rw [hbelow, List.mem_append, List.mem_replicate]
    exact not_or.mpr ⟨hgap, fun hnewline => absurd hnewline.2 (by decide)⟩

/-- A two-byte character and a carriage return stand in the line before the span. -/
theorem format_underlines_bytes_second_line :
    let d : Diagnostic := ⟨⟨8, 10⟩, "unclosed tag", none⟩
    let source := "línea\r\n\x7b\x7b oops"
    ∃ shown gap, (d.sourceRow source).toList = shown ++ "\x7b\x7b oops".toList ∧
      (d.pointerRow source).toList = gap ++ ['^', '^'] ∧ '^' ∉ gap ∧
      gap.length = shown.length := by
  intro d source
  have hstart : String.Pos.Raw.IsValid source ⟨d.span.start⟩ :=
    isValid_iff_exists_byteCount.mpr
      ⟨"línea\r\n".toList, "\x7b\x7b oops".toList, by decide, by decide⟩
  have hstop : String.Pos.Raw.IsValid source ⟨d.span.stop⟩ :=
    isValid_iff_exists_byteCount.mpr
      ⟨"línea\r\n\x7b\x7b".toList, " oops".toList, by decide, by decide⟩
  have hrest : restOfLine (d.span.onward source) = "\x7b\x7b oops".toList := by decide
  have hplace : (Position.ofOffset source d.span.start).line < 1000 := by decide
  have hbytes : byteCount (d.span.chars source) = 2 := by decide
  obtain ⟨-, -, -, shown, gap, carets, habove, hbelow, hcaret, -, haligned, hcarets, -⟩ :=
    format_underlines_bytes none hstart hstop (by rw [hrest]; decide)
  rw [hrest] at habove
  rw [hcarets, hbytes] at hbelow
  exact ⟨shown, gap, habove, hbelow, hcaret, haligned.mpr hplace⟩

theorem format_thousandth_line :
    Diagnostic.format ⟨⟨999, 1000⟩, "m", none⟩ (String.ofList (List.replicate 999 '\n' ++ ['x']))
      none = "Error: m\n --> 1000:1\n  |\n1000 | x\n    | ^" := by
  -- The newlines are counted by lemmas, since evaluating a thousand lines takes too long.
  have hsource : (String.ofList (List.replicate 999 '\n' ++ ['x'])).toList =
      List.replicate 999 '\n' ++ ['x'] := String.toList_ofList
  have hbytes : byteCount (List.replicate 999 '\n') = 999 := by
    rw [byteCount_eq_length_iff.mpr fun c hc => by rw [List.eq_of_mem_replicate hc]; rfl,
      List.length_replicate]
  have hlast : lastLine (List.replicate 999 '\n') = [] := by
    rw [List.replicate_succ', lastLine_concat_newline]
  have hafter : Position.after (List.replicate 999 '\n') = ⟨1000, 1⟩ := by
    rw [Position.after_eq, List.count_replicate_self, hlast]
    rfl
  have hplace := Position.ofOffset_byteCount hsource
  have hline := Diagnostic.sourceLine_eq hsource (by decide)
  rw [hbytes, hafter] at hplace
  rw [hafter, hlast] at hline
  unfold Diagnostic.format
  rw [hplace]
  dsimp only
  rw [hline]
  decide +kernel

/-- A span of one character gets two carets if the character takes up two bytes, and the caret
stands one place too far left under a line with a number of four digits. -/
theorem format_misplaces_carets :
    String.Pos.Raw.IsValid "é" ⟨0⟩ ∧ String.Pos.Raw.IsValid "é" ⟨2⟩ ∧
    restOfLine ((Span.mk 0 2).onward "é") = ['é'] ∧ (Span.mk 0 2).chars "é" = ['é'] ∧
    Diagnostic.format ⟨⟨0, 2⟩, "m", none⟩ "é" none =
      "Error: m\n --> 1:1\n  |\n  1 | é\n    | ^^" ∧
    Diagnostic.format ⟨⟨999, 1000⟩, "m", none⟩ (String.ofList (List.replicate 999 '\n' ++ ['x']))
      none = "Error: m\n --> 1000:1\n  |\n1000 | x\n    | ^" := by
  refine ⟨?_, ?_, by decide, by decide, by decide +kernel, format_thousandth_line⟩
  · exact isValid_iff_exists_byteCount.mpr ⟨[], ['é'], by decide, rfl⟩
  · exact isValid_iff_exists_byteCount.mpr ⟨['é'], [], by decide, rfl⟩

end Stencil
