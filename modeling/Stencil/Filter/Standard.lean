import Stencil.Filter.Registry
import Stencil.Text.Case
import Stencil.Text.Fields

/-!
# The standard filters

The filters that every template can rely on, unless a host replaces them.

## Main definitions

* `Filter.default`, `Filter.yesno`: choices by truth
* `Filter.upper`, `Filter.lower`, `Filter.capfirst`, `Filter.title`: case
* `Filter.length`, `Filter.first`, `Filter.last`, `Filter.join`, `Filter.add`: texts and sequences
* `Registry.standard`: the registry of the standard filters
-/

namespace Stencil

namespace Filter

/-- The value, or the argument if the value does not count as true. -/
def default : Filter :=
  total "default" .required fun v arg => if v.isTruthy then v else arg.getD .nothing

/-- The text of the value in upper case. -/
def upper : Filter :=
  total "upper" .forbidden fun v _ => .string (Text.upper v.text)

/-- The text of the value in lower case. -/
def lower : Filter :=
  total "lower" .forbidden fun v _ => .string (Text.lower v.text)

/-- The text of the value with its first character in upper case. -/
def capfirst : Filter :=
  total "capfirst" .forbidden fun v _ => .string (Text.capitalize v.text)

/-- The text of the value with every word, as parted by spaces, in lower case but for its first
character, which is in upper case. -/
def title : Filter :=
  total "title" .forbidden fun v _ =>
    .string (Text.joined " " ((Text.fields ' ' v.text).map fun w => Text.capitalize (Text.lower w)))

/-- How many characters, items or entries the value has. -/
def length : Filter :=
  total "length" .forbidden fun v _ =>
    match v with
    | .string s => .ofNat s.length
    | .array items => .ofNat items.length
    | .map entries => .ofNat entries.length
    | _ => .ofNat 0

/-- The first item of a sequence, or the first character of a text. -/
def first : Filter :=
  total "first" .forbidden fun v _ =>
    match v with
    | .array items => items.head?.getD .nothing
    | .string s => (s.toList.head?.map fun c => .string (String.singleton c)).getD .nothing
    | _ => .nothing

/-- The last item of a sequence, or the last character of a text. -/
def last : Filter :=
  total "last" .forbidden fun v _ =>
    match v with
    | .array items => items.getLast?.getD .nothing
    | .string s => (s.toList.getLast?.map fun c => .string (String.singleton c)).getD .nothing
    | _ => .nothing

/-- The texts of the items of a sequence, with the argument between neighbours. -/
def join : Filter :=
  total "join" .required fun v arg =>
    match v with
    | .array items => .string (Text.joined ((arg.map Value.text).getD "") (Value.texts items))
    | v => v

/-- The sum of two numbers, two sequences one behind the other, or, where one of the two is a text,
both texts one behind the other. Other values have no sum. -/
def sum : Value → Value → Value
  | .number x, .number y => .number (x + y)
  | .array xs, .array ys => .array (xs ++ ys)
  | .string s, v => .string (s ++ v.text)
  | v, .string s => .string (v.text ++ s)
  | _, _ => .string ""

/-- The sum of the value and the argument. -/
def add : Filter :=
  total "add" .required fun v arg => sum v (arg.getD .nothing)

/-- The first, second or third choice of the argument, as the value counts as true, counts as false
or is absent; without a third choice the second one serves for it. -/
def yesno : Filter :=
  fallible "yesno" .optional fun v arg =>
    match Text.fields ',' ((arg.map Value.text).getD "yes,no,maybe") with
    | yes :: no :: rest =>
      match v with
      | .nothing => .ok (.string (rest.headD no))
      | v => .ok (.string (if v.isTruthy then yes else no))
    | _ =>
      .error { fault := .filterArgument "yesno" "needs at least two comma-separated choices" }

/-- All standard filters. -/
def standard : List Filter :=
  [default, upper, lower, capfirst, title, length, first, last, join, add, yesno]

end Filter

/-- The registry of the standard filters. -/
def Registry.standard : Registry :=
  Registry.empty.registerAll Filter.standard

end Stencil
