/-!
# Lexemes

The pieces of a source that have no inner structure for the grammar. A scanner looks at the
characters that lie ahead, and either finds no lexeme there or splits them into the lexeme and the
rest.

## Main definitions

* `Scanner`: finds a lexeme at the start of some characters
* `Scan.literal`, `Scan.blanks`: fixed characters and blanks
* `Scan.identifier`, `Scan.path`, `Scan.number`, `Scan.keyword`: names and numbers
* `Scan.quoted`: string literals; `Scan.unescape`: the text such a literal denotes
* `Scan.text`, `Scan.comment`: what stands between tags
-/

namespace Stencil.Grammar

/-- Splits the characters ahead into a lexeme and the rest, if there is a lexeme. -/
abbrev Scanner := List Char → Option (List Char × List Char)

namespace Scan

/-- The longest run of characters with the property, perhaps empty. -/
def run (p : Char → Bool) (cs : List Char) : List Char × List Char :=
  (cs.takeWhile p, cs.dropWhile p)

/-- The longest run of characters with the property, if it is not empty. -/
def run1 (p : Char → Bool) : Scanner
  | [] => none
  | c :: cs => if p c then some (c :: cs.takeWhile p, cs.dropWhile p) else none

/-- The given characters. -/
def literal : List Char → Scanner
  | [], cs => some ([], cs)
  | _ :: _, [] => none
  | d :: ds, c :: cs =>
    if c = d then (literal ds cs).map fun (lexeme, rest) => (c :: lexeme, rest) else none

/-- One lexeme right behind another. -/
def append (first second : Scanner) : Scanner := fun cs =>
  match first cs with
  | none => none
  | some (a, rest) => (second rest).map fun (b, rest) => (a ++ b, rest)

/-- The lexeme of the first scanner that finds one. -/
def either (first second : Scanner) : Scanner := fun cs =>
  match first cs with
  | some found => some found
  | none => second cs

/-- The lexeme, or the empty lexeme if there is none. -/
def orEmpty (scan : Scanner) : Scanner := fun cs =>
  match scan cs with
  | some found => some found
  | none => some ([], cs)

/-- At most `n` lexemes in a row, as many as there are. -/
def upTo (scan : Scanner) : Nat → Scanner
  | 0, cs => some ([], cs)
  | n + 1, cs => orEmpty (append scan (upTo scan n)) cs

/-- The characters that may stand between the parts of a tag. -/
def isSpace (c : Char) : Bool :=
  c = ' ' || c = '\t' || c = '\r' || c = '\n'

/-- The characters that a name starts with. -/
def isNameStart (c : Char) : Bool :=
  c.isAlpha || c = '_'

/-- The characters that a name goes on with. -/
def isNamePart (c : Char) : Bool :=
  c.isAlphanum || c = '_'

/-- Spaces, perhaps none. -/
def blanks : Scanner := fun cs =>
  some (run isSpace cs)

/-- At least one space. -/
def blanks1 : Scanner :=
  run1 isSpace

/-- Decimal digits, at least one. -/
def digits : Scanner :=
  run1 Char.isDigit

/-- A name: letters, digits and underscores, of which the first is not a digit. -/
def identifier : Scanner
  | [] => none
  | c :: cs =>
    if isNameStart c then some (c :: cs.takeWhile isNamePart, cs.dropWhile isNamePart) else none

/-- A further segment of a path: a dot and then a name or digits. -/
def segment : Scanner :=
  append (literal ['.']) (either identifier digits)

/-- A name and further segments. -/
def path : Scanner := fun cs =>
  append identifier (upTo segment cs.length) cs

/-- Decimal digits, perhaps with a sign in front and decimal places behind. -/
def number : Scanner :=
  append (orEmpty (literal ['-'])) (append digits (orEmpty (append (literal ['.']) digits)))

/-- A word that no name, and no path, goes on from. -/
def keyword (word : List Char) : Scanner := fun cs =>
  match literal word cs with
  | some (lexeme, []) => some (lexeme, [])
  | some (lexeme, c :: rest) => if isNamePart c || c = '.' then none else some (lexeme, c :: rest)
  | none => none

/-- The characters up to and including the first `quote`, where a backslash shields the character
behind it. -/
def quotedRest (quote : Char) : Scanner
  | [] => none
  | '\\' :: c :: cs => (quotedRest quote cs).map fun (lexeme, rest) => ('\\' :: c :: lexeme, rest)
  | c :: cs =>
    if c = quote then
      some ([c], cs)
    else
      (quotedRest quote cs).map fun (lexeme, rest) => (c :: lexeme, rest)

/-- A text between two double or two single quotes. -/
def quoted : Scanner
  | [] => none
  | c :: cs =>
    if c = '"' || c = '\'' then
      (quotedRest c cs).map fun (lexeme, rest) => (c :: lexeme, rest)
    else
      none

/-- The text that the characters between two quotes denote. A backslash before `n`, `t` or `r`
makes a control character, before a quote or a backslash it vanishes, and elsewhere it stays. -/
def unescape : List Char → List Char
  | [] => []
  | '\\' :: c :: cs =>
    match c with
    | 'n' => '\n' :: unescape cs
    | 't' => '\t' :: unescape cs
    | 'r' => '\r' :: unescape cs
    | '"' => '"' :: unescape cs
    | '\'' => '\'' :: unescape cs
    | '\\' => '\\' :: unescape cs
    | c => '\\' :: c :: unescape cs
  | c :: cs => c :: unescape cs

/-- Whether a tag or a comment opens here. -/
def opens : List Char → Bool
  | '{' :: c :: _ => c = '{' || c = '%' || c = '#'
  | _ => false

/-- The characters before the next tag or comment, perhaps none. -/
def untilOpening : List Char → List Char × List Char
  | [] => ([], [])
  | c :: cs =>
    if opens (c :: cs) then
      ([], c :: cs)
    else
      let (lexeme, rest) := untilOpening cs
      (c :: lexeme, rest)

/-- The characters before the next tag or comment, if there are any. -/
def text : Scanner := fun cs =>
  match untilOpening cs with
  | ([], _) => none
  | (c :: lexeme, rest) => some (c :: lexeme, rest)

/-- The characters up to and including the end mark of a comment. -/
def commentRest : Scanner
  | [] => none
  | '#' :: '}' :: cs => some (['#', '}'], cs)
  | c :: cs => (commentRest cs).map fun (lexeme, rest) => (c :: lexeme, rest)

/-- A comment with its marks. -/
def comment : Scanner :=
  append (literal ['{', '#']) commentRest

end Scan

end Stencil.Grammar
