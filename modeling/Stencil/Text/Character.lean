/-!
# Classes and spellings of characters

A class of characters is given by the ranges of code points that belong to it. The blank characters
are those with the Unicode property `White_Space`. In HTML five characters are read as markup; they
are written as entities, so that a text stands for itself between tags and inside attribute values.

## Main definitions

* `CodeRange`: the code points between two ends, both included
* `CodeRange.covers`: membership of a character in one of several ranges
* `isBlank`: the blank characters
* `trim`: a text without the blanks at its two ends
* `entity`, `escape`: the spelling of a character and of a text in HTML
-/

namespace Stencil.Text

/-! ## Ranges of code points -/

/-- The code points from `first` to `last`, both included. -/
structure CodeRange where
  first : Nat
  last : Nat

namespace CodeRange

/-- Whether a character lies in the range. -/
def contains (r : CodeRange) (c : Char) : Bool :=
  r.first ≤ c.toNat && c.toNat ≤ r.last

/-- Whether a character lies in one of the ranges. -/
def covers (rs : List CodeRange) (c : Char) : Bool :=
  rs.any (·.contains c)

end CodeRange

/-! ## Blanks -/

/-- The code points with the property `White_Space`. -/
def blankRanges : List CodeRange := [
  ⟨0x0009, 0x000D⟩, ⟨0x0020, 0x0020⟩, ⟨0x0085, 0x0085⟩, ⟨0x00A0, 0x00A0⟩, ⟨0x1680, 0x1680⟩,
  ⟨0x2000, 0x200A⟩, ⟨0x2028, 0x2029⟩, ⟨0x202F, 0x202F⟩, ⟨0x205F, 0x205F⟩, ⟨0x3000, 0x3000⟩]

/-- Whether a character is blank. -/
def isBlank (c : Char) : Bool :=
  CodeRange.covers blankRanges c

/-- Characters without the blanks at their two ends. -/
def trimChars (cs : List Char) : List Char :=
  ((cs.dropWhile isBlank).reverse.dropWhile isBlank).reverse

/-- A text without the blanks at its two ends. -/
def trim (s : String) : String :=
  String.ofList (trimChars s.toList)

/-! ## Markup -/

/-- The spelling of a character in which none of `<`, `>`, `"` and `'` occurs. -/
def entity (c : Char) : List Char :=
  match c with
  | '&' => "&amp;".toList
  | '<' => "&lt;".toList
  | '>' => "&gt;".toList
  | '"' => "&quot;".toList
  | '\'' => "&#x27;".toList
  | c => [c]

/-- A text with every markup character written as its entity. -/
def escape (s : String) : String :=
  String.ofList (s.toList.flatMap entity)

end Stencil.Text
