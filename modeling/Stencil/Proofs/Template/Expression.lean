import Stencil.Grammar.Expression
import Stencil.Proofs.Grammar.Triple
import Stencil.Proofs.Template.Print

/-!
# Reading printed expressions

A well-formed expression is read back from its text. Choice between readers is ordered and never
revised, so beside each reader that is meant to read a text, the readers before it have to fail on
that text; and repetition is greedy, so it has to end where it should. What may follow is therefore
part of every statement: a bar or a closing mark behind an operand, and a closing mark behind an
expression.

## Main definitions

* `OperandEnds`, `ExprEnds`: what follows an operand or an expression

## Main results

* `takes_operand`, `takes_filterCall`: operands and filter calls are read back
* `takes_filterExpression`, `takes_condition`: expressions and conditions are read back
-/

namespace Stencil

open Grammar Scan Reader

/-! ## Classes of characters -/

/-- The characters that string literals start with. -/
def isQuote (c : Char) : Bool :=
  c = '"' || c = '\''

/-- The characters that numbers start with. -/
def isNumberStart (c : Char) : Bool :=
  c.isDigit || c = '-'

section Classes

variable {c : Char}

/-- Classes are disjoint if one of them is a list of characters that are not in the other. -/
theorem eq_false_of_all {p q : Char → Bool} {choices : List Char} (hq : ∀ c, q c → c ∈ choices)
    (hp : choices.all (!p ·)) (h : p c) : q c = false := by
  refine Bool.eq_false_iff.mpr fun hc => ?_
  have hfalse := List.all_eq_true.mp hp c (hq c hc)
  simp [h] at hfalse

theorem mem_of_isSpace : ∀ c, isSpace c → c ∈ [' ', '\t', '\r', '\n'] := by
  simp [isSpace, or_assoc]

theorem mem_of_isQuote : ∀ c, isQuote c → c ∈ ['"', '\''] := by
  simp [isQuote]

theorem isSpace_of_isNameStart (h : isNameStart c) : isSpace c = false :=
  eq_false_of_all mem_of_isSpace (by decide) h

theorem isSpace_of_isPathPart (h : isPathPart c) : isSpace c = false :=
  eq_false_of_all mem_of_isSpace (by decide) h

theorem isQuote_of_isNameStart (h : isNameStart c) : isQuote c = false :=
  eq_false_of_all mem_of_isQuote (by decide) h

theorem isQuote_of_isNumberStart (h : isNumberStart c) : isQuote c = false :=
  eq_false_of_all mem_of_isQuote (by decide) h

theorem isNumberStart_of_isNameStart (h : isNameStart c) : isNumberStart c = false := by
  refine Bool.eq_false_iff.mpr fun hc => ?_
  simp only [isNumberStart, Bool.or_eq_true, decide_eq_true_eq] at hc
  rcases hc with hdigit | rfl
  · rw [isNameStart_eq_false_of_isDigit hdigit] at h
    cases h
  · exact absurd h (by decide)

theorem isPathPart_of_isNamePart (h : isNamePart c) : isPathPart c := by
  simp [isPathPart, h]

theorem isPathPart_of_isNumberPart (h : isNumberPart c) : isPathPart c := by
  simp only [isNumberPart, Bool.or_eq_true, decide_eq_true_eq] at h
  rcases h with h | rfl
  · exact isPathPart_of_isNamePart (isNamePart_of_isDigit h)
  · rfl

end Classes

/-! ## What follows -/

/-- The next character is one of the given ones. -/
def Begins (choices cs : List Char) : Prop :=
  ∃ c ∈ choices, cs.head? = some c

/-- A bar or a closing mark comes next, as it does behind every operand. -/
abbrev OperandEnds (rest : List Char) : Prop :=
  Begins ['|', '}', '%'] rest

/-- A closing mark comes next, as it does behind every expression. -/
abbrev ExprEnds (rest : List Char) : Prop :=
  Begins ['}', '%'] rest

section Ends

variable {choices rest : List Char}

theorem begins_cons {c : Char} (hc : c ∈ choices) : Begins choices (c :: rest) :=
  ⟨c, hc, rfl⟩

theorem Begins.stops {p : Char → Bool} (h : Begins choices rest) (hp : choices.all (!p ·)) :
    Stops p rest := by
  obtain ⟨c, hc, hhead⟩ := h
  intro d hd
  obtain rfl : c = d := Option.some.inj (hhead.symm.trans hd)
  simpa using List.all_eq_true.mp hp c hc

theorem Begins.not_isPrefix {d : Char} {ds : List Char} (h : Begins choices rest)
    (hd : d ∉ choices) : ¬ d :: ds <+: rest := by
  rintro ⟨tail, rfl⟩
  obtain ⟨c, hc, hhead⟩ := h
  obtain rfl : d = c := Option.some.inj hhead
  exact hd hc

theorem ExprEnds.operandEnds (h : ExprEnds rest) : OperandEnds rest := by
  obtain ⟨c, hc, hhead⟩ := h
  exact ⟨c, List.mem_cons_of_mem _ hc, hhead⟩

theorem OperandEnds.stops_pathPart (h : OperandEnds rest) : Stops isPathPart rest :=
  h.stops (by decide)

theorem OperandEnds.stops_space (h : OperandEnds rest) : Stops isSpace rest :=
  h.stops (by decide)

theorem OperandEnds.stops_namePart (h : OperandEnds rest) : Stops isNamePart rest :=
  h.stops_pathPart.imp fun _ => isPathPart_of_isNamePart

theorem OperandEnds.stops_numberPart (h : OperandEnds rest) : Stops isNumberPart rest :=
  h.stops_pathPart.imp fun _ => isPathPart_of_isNumberPart

/-- Whatever class no name starts with, a name does not start with it. -/
theorem stops_of_isIdentifier {p : Char → Bool} {name : List Char} (h : IsIdentifier name)
    (hp : ∀ c, isNameStart c → p c = false) : Stops p (name ++ rest) := by
  cases name with
  | nil => exact h.elim
  | cons c name => exact (stops_cons _ _ _).mpr (hp c h.1)

end Ends

/-! ## Operands -/

section Operands

variable {cs rest : List Char}

theorem Grammar.IsDecimal.begins (h : IsDecimal cs) :
    ∃ c tail, cs = c :: tail ∧ isNumberStart c := by
  obtain ⟨sign, whole, places, rfl, rfl | rfl, ⟨hne, hdigits⟩, -⟩ := h
  · cases whole with
    | nil => exact absurd rfl hne
    | cons c whole =>
      exact ⟨c, whole ++ places, rfl, by simp [isNumberStart, hdigits c List.mem_cons_self]⟩
  · exact ⟨'-', whole ++ places, rfl, rfl⟩

theorem takes_quotedString (s : String) :
    Takes quotedString ('"' :: (escaped '"' s.toList ++ ['"'])) rest
      (· = .literal (.string s)) := by
  refine .tracked (.bind_pure
    (.lexeme (quoted_append (.inl rfl) (shielded_escaped '"' s.toList) rest)) ?_)
  rintro lexeme rfl
  rw [stringOfQuoted_cons, unescape_escaped (.inl rfl), String.ofList_toList]

theorem fails_quotedString (h : Stops isQuote cs) : Fails quotedString cs := by
  refine .tracked (.bind (.lexeme ?_))
  cases cs with
  | nil => rfl
  | cons c cs =>
    rw [stops_cons, isQuote] at h
    simp [quoted, h]

theorem takes_number (hcs : IsDecimal cs) (hr : Stops isNumberPart rest) :
    Takes number cs rest (· = .literal (.number (numberOfDecimal cs))) := by
  refine .tracked (.bind_pure (.lexeme (number_append hcs hr)) ?_)
  rintro lexeme rfl
  rfl

theorem fails_number (h : Stops isNumberStart cs) : Fails number cs := by
  refine .tracked (.bind (.lexeme (Option.eq_none_iff_forall_ne_some.mpr ?_)))
  rintro ⟨lexeme, left⟩ hscan
  -- Whatever is found is a decimal, and starts like one.
  obtain ⟨c, tail, rfl, hc⟩ := (finds_number _ _ _ hscan).begins
  have hsplit := lossless_number _ _ _ hscan
  rw [← hsplit, List.cons_append, stops_cons, hc] at h
  cases h

theorem takes_boolLiteral (b : Bool) (hr : Stops isPathPart rest) :
    Takes boolLiteral (if b then "true".toList else "false".toList) rest
      (· = .literal (.bool b)) := by
  cases b with
  | true =>
    refine .tracked (.bind_pure (.lexeme ?_) fun lexeme hlexeme => ?_)
    · rw [if_pos rfl, either, keyword_append _ hr]
    · subst hlexeme
      rfl
  | false =>
    refine .tracked (.bind_pure (.lexeme ?_) fun lexeme hlexeme => ?_)
    · have hfirst : keyword "true".toList ("false".toList ++ rest) = none := by
        rw [keyword, literal_eq_none (by simp)]
      rw [if_neg (by simp), either, hfirst, keyword_append _ hr]
    · subst hlexeme
      rfl

theorem takes_noneLiteral (hr : Stops isPathPart rest) :
    Takes noneLiteral "none".toList rest (· = .literal .nothing) :=
  .tracked (.bind_pure (.lexeme (keyword_append _ hr)) fun _ _ => rfl)

theorem takes_path {p : Path} (hp : p.Regular) (hr : Stops isPathPart rest) :
    Takes path p.key.toList rest (· = .variable p) := by
  refine .tracked (.bind_pure (.lexeme (path_append hp hr)) ?_)
  rintro lexeme rfl
  rw [String.ofList_toList, hp.ofDotted_key]

theorem Path.Regular.stops_key {p : Path} {q : Char → Bool} (hp : p.Regular)
    (hq : ∀ c, isNameStart c → q c = false) : Stops q (p.key.toList ++ rest) := by
  rw [Path.toList_key, List.append_assoc]
  exact stops_of_isIdentifier hp.head hq

/-- A path that is not the one-segment path of a word has another key than the word. -/
theorem Path.Regular.key_ne {p : Path} {word : String} (hp : p.Regular)
    (hword : Path.ofDotted word = ⟨word, []⟩) (hne : p ≠ ⟨word, []⟩) :
    p.key.toList ≠ word.toList := by
  intro hkey
  rw [String.toList_inj] at hkey
  exact hne (by rw [← hp.ofDotted_key, hkey, hword])

theorem fails_boolLiteral {p : Path} (hp : p.Regular) (hr : Stops isPathPart rest)
    (htrue : p ≠ ⟨"true", []⟩) (hfalse : p ≠ ⟨"false", []⟩) :
    Fails boolLiteral (p.key.toList ++ rest) := by
  refine .tracked (.bind (.lexeme ?_))
  rw [either, keyword_eq_none hp hr (by decide) (hp.key_ne rfl htrue),
    keyword_eq_none hp hr (by decide) (hp.key_ne rfl hfalse)]

theorem fails_noneLiteral {p : Path} (hp : p.Regular) (hr : Stops isPathPart rest)
    (hnone : p ≠ ⟨"none", []⟩) : Fails noneLiteral (p.key.toList ++ rest) :=
  .tracked (.bind (.lexeme (keyword_eq_none hp hr (by decide) (hp.key_ne rfl hnone))))

/-- Where a name starts there is neither a string nor a number. -/
theorem takes_of_stops {q : Reader Term} {P : Term → Prop}
    (hstops : ∀ p : Char → Bool, (∀ c, isNameStart c → p c = false) → Stops p (cs ++ rest))
    (hq : Takes q cs rest P) : Takes (quotedString <|> Grammar.number <|> q) cs rest P := by
  have hstring := fails_quotedString (hstops isQuote fun c => isQuote_of_isNameStart)
  have hnumber := fails_number (hstops isNumberStart fun c => isNumberStart_of_isNameStart)
  exact .orElse_right hstring (.orElse_right hnumber hq)

variable {spell : Operand → List Char}

/-- A term is read back from the text of its operand. -/
theorem takes_term {o : Operand} (ho : o.WellFormed) (hspell : o.SpelledBy spell)
    (hr : OperandEnds rest) :
    Takes (quotedString <|> Grammar.number <|> boolLiteral <|> noneLiteral <|> Grammar.path)
      (o.print spell) rest (· = o.term) := by
  have hpath := hr.stops_pathPart
  obtain ⟨v | p, pos⟩ := o
  · cases v with
    | string s => exact .orElse_left (takes_quotedString s)
    | number x =>
      obtain ⟨hdecimal, hvalue⟩ := hspell x rfl
      have hquote : Stops isQuote (spell ⟨.literal (.number x), pos⟩ ++ rest) := by
        obtain ⟨c, tail, hsplit, hc⟩ := hdecimal.begins
        rw [hsplit, List.cons_append, stops_cons]
        exact isQuote_of_isNumberStart hc
      refine .orElse_right (fails_quotedString hquote) (.orElse_left ?_)
      refine (takes_number hdecimal hr.stops_numberPart).imp fun term hterm => ?_
      rw [hterm, hvalue]
    | bool b =>
      have hname : IsIdentifier (if b then "true".toList else "false".toList) := by
        cases b <;> decide
      refine takes_of_stops (fun p => stops_of_isIdentifier hname) ?_
      exact .orElse_left (takes_boolLiteral b hpath)
    | nothing =>
      have hname : IsIdentifier "none".toList := by decide
      have hregular : (⟨"none", []⟩ : Path).Regular := ⟨hname, by simp⟩
      have hbool : Fails boolLiteral ("none".toList ++ rest) := by
        have hkey : (⟨"none", []⟩ : Path).key = "none" := rfl
        rw [← hkey]
        exact fails_boolLiteral hregular hpath (by decide) (by decide)
      refine takes_of_stops (fun p => stops_of_isIdentifier hname) ?_
      exact .orElse_right hbool (.orElse_left (takes_noneLiteral hpath))
    | array items => exact ho.elim
    | map entries => exact ho.elim
  · obtain ⟨hp, hreserved⟩ := ho
    simp only [List.mem_cons, List.not_mem_nil, or_false, not_or] at hreserved
    obtain ⟨htrue, hfalse, hnone⟩ := hreserved
    refine takes_of_stops (fun q => hp.stops_key) ?_
    -- A path may start like a keyword, but the keywords look at what follows them.
    exact .orElse_right (fails_boolLiteral hp hpath htrue hfalse)
      (.orElse_right (fails_noneLiteral hp hpath hnone) (takes_path hp hpath))

theorem takes_operand {o : Operand} (ho : o.WellFormed) (hspell : o.SpelledBy spell)
    (hr : OperandEnds rest) :
    Takes operand (o.print spell) rest (·.erasePos = o.erasePos) := by
  refine .bind_position fun pos => .bind_pure (takes_term ho hspell hr) fun term hterm => ?_
  rw [hterm]
  rfl

end Operands

/-! ## Expressions -/

section Expressions

variable {cs rest : List Char} {spell : Operand → List Char}

theorem takes_identifier {name : String} (hname : IsIdentifier name.toList)
    (hr : Stops isNamePart rest) : Takes identifier name.toList rest (· = name) := by
  refine .tracked (.bind_pure (.lexeme (identifier_append hname hr)) ?_)
  rintro lexeme rfl
  exact String.ofList_toList

theorem takes_argument {o : Operand} (ho : o.WellFormed) (hspell : o.SpelledBy spell)
    (hr : OperandEnds rest) :
    Takes argument (":".toList ++ o.print spell) rest (·.erasePos = o.erasePos) :=
  .bind (.symbol ":") fun _ _ => takes_operand ho hspell hr

theorem takes_filterCall {call : FilterCall} (hcall : call.WellFormed)
    (hspell : ∀ o ∈ call.arg, o.SpelledBy spell) (hr : OperandEnds rest) :
    Takes filterCall (call.print spell) rest (·.erasePos = call.erasePos) := by
  obtain ⟨name, arg, pos⟩ := call
  obtain ⟨hname, harg⟩ := hcall
  refine .tracked (.bind_position fun pos => ?_)
  cases arg with
  | none =>
    -- Nothing that could follow is taken for the colon before an argument.
    have hargument : Fails argument rest := .bind (.symbol (hr.not_isPrefix (by decide)))
    refine .bind (takes_identifier hname hr.stops_namePart) fun found hfound => ?_
    refine .bind_pure (.opt_none hargument) fun found' hfound' => ?_
    rw [hfound, hfound']
    rfl
  | some o =>
    have hcolon : Stops isNamePart (":".toList ++ o.print spell ++ rest) :=
      (stops_cons _ _ _).mpr (by decide)
    refine .bind (takes_identifier hname hcolon) fun found hfound => ?_
    have hargument := takes_argument (harg o rfl) (hspell o rfl) hr
    refine .bind_pure (.opt_some hargument) ?_
    rintro _ ⟨o', rfl, ho'⟩
    rw [hfound]
    simp [FilterCall.erasePos, ho']

theorem stops_print_filterCall {call : FilterCall} (hcall : call.WellFormed) :
    Stops isSpace (call.print spell ++ rest) := by
  rw [FilterCall.print, List.append_assoc]
  exact stops_of_isIdentifier hcall.1 fun c => isSpace_of_isNameStart

theorem takes_pipe {call : FilterCall} (hcall : call.WellFormed)
    (hspell : ∀ o ∈ call.arg, o.SpelledBy spell) (hr : OperandEnds rest) :
    Takes pipe (call.printPiped spell) rest (·.erasePos = call.erasePos) := by
  refine .bind_nothing (.blanks (by simp) ((stops_cons _ _ _).mpr (by decide))) fun _ _ => ?_
  refine .bind (.symbol "|") fun _ _ => ?_
  refine .bind_nothing (.blanks (by simp) (stops_print_filterCall hcall)) fun _ _ => ?_
  exact takes_filterCall hcall hspell hr

theorem fails_pipe (hr : ExprEnds rest) : Fails pipe rest := by
  have hblanks : Takes blanks [] rest fun _ => True :=
    .blanks (by simp) hr.operandEnds.stops_space
  exact .bind_of_takes hblanks fun _ _ => .bind (.symbol (hr.not_isPrefix (by decide)))

theorem operandEnds_print_filters {filters : List FilterCall} (hr : OperandEnds rest) :
    OperandEnds (filters.flatMap (FilterCall.printPiped spell) ++ rest) := by
  cases filters with
  | nil => exact hr
  | cons call filters =>
    rw [List.flatMap_cons, List.append_assoc]
    exact begins_cons (by decide)

/-- An expression is read back up to a closing mark. -/
theorem takes_filterExpression {e : FilterExpr} (he : e.WellFormed)
    (hspell : ∀ o ∈ e.operands, o.SpelledBy spell) (hr : ExprEnds rest) :
    Takes filterExpression (e.print spell) rest (·.erasePos = e.erasePos) := by
  have hbar (call : FilterCall) (tail : List Char) :
      OperandEnds (call.printPiped spell ++ tail) := begins_cons (by decide)
  refine .tracked (.bind (takes_operand he.1 (hspell _ List.mem_cons_self)
    (operandEnds_print_filters hr.operandEnds)) ?_)
  intro base hbase
  have hcalls : ∀ call ∈ e.filters, ∀ tail, OperandEnds tail →
      Takes pipe (call.printPiped spell) tail (·.erasePos = call.erasePos) := by
    intro call hcall tail htail
    refine takes_pipe (he.2 call hcall) (fun o ho => hspell o ?_) htail
    exact List.mem_cons_of_mem _ (List.mem_filterMap.mpr ⟨call, hcall, ho⟩)
  have hne (call : FilterCall) : call.printPiped spell ≠ [] := List.cons_ne_nil _ _
  refine .bind_pure (.many hne hcalls hbar hr.operandEnds (fails_pipe hr)) ?_
  intro filters hfilters
  simp [FilterExpr.erasePos, hbase, hfilters]

/-! ## Conditions

An expression is not taken for a negation, even if it starts with the letters of `not`: behind the
characters that a path may consist of, no space follows. -/

theorem stops_of_stops_dropWhile (h : Stops isSpace (cs.dropWhile isPathPart)) :
    Stops isSpace cs := by
  cases cs with
  | nil => exact stops_nil _
  | cons c cs =>
    rw [stops_cons]
    by_cases hc : isPathPart c
    · exact isSpace_of_isPathPart hc
    · rwa [List.dropWhile_cons_of_neg hc, stops_cons] at h

theorem Grammar.IsIdentifier.pathPart (h : IsIdentifier cs) : ∀ c ∈ cs, isPathPart c :=
  fun c hc => isPathPart_of_isNamePart (h.namePart c hc)

theorem fails_negation (h : Stops isSpace (cs.dropWhile isPathPart)) : Fails negation cs := by
  by_cases hnot : "not".toList <+: cs
  · obtain ⟨tail, rfl⟩ := hnot
    have hname : IsIdentifier "not".toList := by decide
    rw [List.dropWhile_append_of_pos hname.pathPart] at h
    have hspace : Scan.blanks1 tail = none := by
      have htail := stops_of_stops_dropWhile h
      cases tail with
      | nil => rfl
      | cons c tail => simp [Scan.blanks1, run1, (stops_cons _ _ _).mp htail]
    exact .tracked (.bind_of_takes (.symbol "not") fun _ _ => .bind (.lexeme hspace))
  · exact .tracked (.bind (.symbol hnot))

theorem Grammar.IsDecimal.pathPart (h : IsDecimal cs) (hsign : cs.head? ≠ some '-') :
    ∀ c ∈ cs, isPathPart c := by
  obtain ⟨sign, whole, places, rfl, rfl | rfl, hwhole, hplaces⟩ := h
  · have hdigits {ds : List Char} (hds : IsDigits ds) : ∀ c ∈ ds, isPathPart c := fun c hc =>
      isPathPart_of_isNamePart (isNamePart_of_isDigit (hds.2 c hc))
    intro c hc
    rw [List.nil_append] at hc
    rcases List.mem_append.mp hc with hc | hc
    · exact hdigits hwhole c hc
    · rcases hplaces with rfl | ⟨ds, hds, rfl⟩
      · cases hc
      · rcases List.mem_cons.mp hc with rfl | hc
        · decide
        · exact hdigits hds c hc
  · exact absurd rfl hsign

theorem Path.Regular.pathPart {p : Path} (hp : p.Regular) : ∀ c ∈ p.key.toList, isPathPart c := by
  intro c hc
  rw [Path.toList_key] at hc
  rcases List.mem_append.mp hc with hc | hc
  · exact isPathPart_of_isNamePart (hp.head.namePart c hc)
  · obtain ⟨s, hs, hc⟩ := List.mem_flatMap.mp hc
    obtain ⟨t, ht, rfl⟩ := List.mem_map.mp hs
    rcases List.mem_cons.mp hc with rfl | hc
    · decide
    · exact isPathPart_of_isNamePart ((hp.rest t ht).namePart c hc)

theorem stops_dropWhile_print {o : Operand} (ho : o.WellFormed) (hspell : o.SpelledBy spell)
    (hr : OperandEnds rest) :
    Stops isSpace ((o.print spell ++ rest).dropWhile isPathPart) := by
  have hword {word : List Char} (hall : ∀ c ∈ word, isPathPart c) :
      Stops isSpace ((word ++ rest).dropWhile isPathPart) := by
    rw [dropWhile_append_of_stops hall hr.stops_pathPart]
    exact hr.stops_space
  obtain ⟨v | p, pos⟩ := o
  · cases v with
    | string s => exact (stops_cons _ _ _).mpr (by decide)
    | number x =>
      obtain ⟨hdecimal, -⟩ := hspell x rfl
      by_cases hsign : (spell ⟨.literal (.number x), pos⟩).head? = some '-'
      · obtain ⟨tail, htail⟩ := List.head?_eq_some_iff.mp hsign
        change Stops isSpace ((spell ⟨.literal (.number x), pos⟩ ++ rest).dropWhile isPathPart)
        rw [htail]
        exact (stops_cons _ _ _).mpr (by decide)
      · exact hword (hdecimal.pathPart hsign)
    | bool b =>
      have hname : IsIdentifier (if b then "true".toList else "false".toList) := by
        cases b <;> decide
      exact hword hname.pathPart
    | nothing =>
      have hname : IsIdentifier "none".toList := by decide
      exact hword hname.pathPart
    | array items => exact ho.elim
    | map entries => exact ho.elim
  · exact hword ho.1.pathPart

theorem stops_dropWhile_print_filterExpr {e : FilterExpr} (he : e.WellFormed)
    (hspell : ∀ o ∈ e.operands, o.SpelledBy spell) (hr : ExprEnds rest) :
    Stops isSpace ((e.print spell ++ rest).dropWhile isPathPart) := by
  rw [FilterExpr.print, List.append_assoc]
  exact stops_dropWhile_print he.1 (hspell _ List.mem_cons_self)
    (operandEnds_print_filters hr.operandEnds)

/-- A condition is read back up to the closing mark of its tag. -/
theorem takes_condition {test : Condition} (htest : test.test.WellFormed)
    (hspell : ∀ o ∈ test.test.operands, o.SpelledBy spell) (hr : ExprEnds rest) :
    Takes condition (test.print spell) rest (·.erasePos = test.erasePos) := by
  obtain ⟨negated, e⟩ := test
  have hstop := stops_dropWhile_print_filterExpr htest hspell hr
  have he := takes_filterExpression htest hspell hr
  refine .tracked ?_
  cases negated with
  | false =>
    refine .bind_nothing (.opt_none (fails_negation hstop)) fun found hfound => ?_
    refine .bind_pure he fun e' he' => ?_
    rw [hfound]
    simp [Condition.erasePos, he']
  | true =>
    have hnot : Takes negation ("not".toList ++ [' ']) (e.print spell ++ rest) fun _ => True :=
      .tracked (.bind (.symbol "not") fun _ _ =>
        .blanks1 (by simp) (by simp [isSpace]) (stops_of_stops_dropWhile hstop))
    refine .bind (.opt_some hnot) ?_
    rintro _ ⟨found, rfl, -⟩
    refine .bind_pure he fun e' he' => ?_
    simp [Condition.erasePos, he']

theorem stops_print_condition {test : Condition} (htest : test.test.WellFormed)
    (hspell : ∀ o ∈ test.test.operands, o.SpelledBy spell) (hr : ExprEnds rest) :
    Stops isSpace (test.print spell ++ rest) := by
  obtain ⟨negated, e⟩ := test
  cases negated with
  | false => exact stops_of_stops_dropWhile (stops_dropWhile_print_filterExpr htest hspell hr)
  | true => exact (stops_cons _ _ _).mpr (by decide)

end Expressions

end Stencil
