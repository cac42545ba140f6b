import Stencil.Text.CaseData

/-!
# Case conversion

Upper and lower case by the full mappings of Unicode: one character may become several, and a
capital sigma at the end of a word becomes a final sigma. The end of a word is judged by the cased
letters around the sigma, case-ignorable characters being passed over.

## Main definitions

* `upperChar`, `lowerChar`: the mappings of a character, without regard to its neighbours
* `upper`, `lower`: the conversions of a text
* `capitalize`: a text whose first character alone is converted to upper case
-/

namespace Stencil.Text

/-- The image of a character under single and multiple mappings; by default the character itself. -/
def mapCase (runs : List CaseRun) (expansions : List (Nat × List Nat)) (c : Char) : List Char :=
  match runs.findSome? (·.image? c.toNat) with
  | some n => [Char.ofNat n]
  | none =>
    match expansions.lookup c.toNat with
    | some ns => ns.map Char.ofNat
    | none => [c]

/-- The upper case of a character. -/
def upperChar (c : Char) : List Char :=
  if c.toNat < 0x80 then [c.toUpper] else mapCase upperRuns upperExpansions c

/-- The lower case of a character on its own. -/
def lowerChar (c : Char) : List Char :=
  if c.toNat < 0x80 then [c.toLower] else mapCase lowerRuns lowerExpansions c

/-- Whether the first character that is not case-ignorable exists and is cased. -/
def meetsCased (cs : List Char) : Bool :=
  match cs.dropWhile (CodeRange.covers caseIgnorableRanges) with
  | [] => false
  | c :: _ => CodeRange.covers casedRanges c

/-- The lower case of a character between its neighbours, `before` being read backwards: a capital
sigma with a cased letter before and none after it ends a word. -/
def lowerAmong (before : List Char) (c : Char) (after : List Char) : List Char :=
  if c = 'Σ' then
    [if meetsCased before && !meetsCased after then 'ς' else 'σ']
  else
    lowerChar c

/-- The lower case of characters that follow `before`, which is read backwards. -/
def lowerFrom (before : List Char) : List Char → List Char
  | [] => []
  | c :: after => lowerAmong before c after ++ lowerFrom (c :: before) after

/-- A text in upper case. -/
def upper (s : String) : String :=
  String.ofList (s.toList.flatMap upperChar)

/-- A text in lower case. -/
def lower (s : String) : String :=
  String.ofList (lowerFrom [] s.toList)

/-- A text with its first character in upper case. -/
def capitalize (s : String) : String :=
  match s.toList with
  | [] => ""
  | c :: cs => String.ofList (upperChar c ++ cs)

end Stencil.Text
