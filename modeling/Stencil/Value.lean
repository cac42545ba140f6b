import Stencil.Number.Text
import Stencil.Text.Fields

/-!
# Values

The data that templates work on: texts, numbers, truth values, sequences, maps with text keys, and
the value of what is not there.

## Main definitions

* `Value`: the data of templates
* `Value.KeysSorted`, `Value.ofEntries`: the entries of maps
* `Value.text`: what a value looks like in the output
* `Value.isTruthy`: which values count as true
* `Value.child?`: the part of a value that a path segment names
* `Value.items?`: what a loop over a value runs through

## Main results

* `Value.keysSorted_sortEntries`, `Value.sortEntries_of_keysSorted`: maps are made with sorted
  entries, and sorted entries stay as they are
-/

namespace Stencil

/-- A datum of a template. The entries of a map are sorted by key, and every key occurs once
(`Value.KeysSorted`): maps are made by `Value.ofEntries`. -/
inductive Value where
  | string (s : String)
  | number (x : Float)
  | bool (b : Bool)
  | array (items : List Value)
  | map (entries : List (String × Value))
  | nothing

namespace Value

instance : Inhabited Value := ⟨nothing⟩

/-- A whole number as a value. -/
def ofNat (n : Nat) : Value :=
  number (Float.ofNat n)

/-- A word of 64 bits as a value: the upper half of the words stands for the negative numbers. -/
def ofWord (w : UInt64) : Value :=
  number (Float.ofInt w.toInt64.toInt)

/-- A word of the lower half is the whole number that it counts. -/
theorem ofWord_ofNat {n : Nat} (h : n < Nat.pow 2 63) : ofWord (.ofNat n) = ofNat n := by
  rw [ofWord, UInt64.toInt64_ofNat', Int64.toInt_ofNat_of_lt h]
  rfl

/-- The entries are sorted by key, and so every key occurs once. -/
def KeysSorted (entries : List (String × Value)) : Prop :=
  (entries.map Prod.fst).Pairwise (· < ·)

instance (entries : List (String × Value)) : Decidable (KeysSorted entries) :=
  inferInstanceAs (Decidable ((entries.map Prod.fst).Pairwise (· < ·)))

/-- Entries sorted by key, after `key` is given the value `v`. -/
def insertEntry (key : String) (v : Value) : List (String × Value) → List (String × Value)
  | [] => [(key, v)]
  | (k, w) :: rest =>
    if key < k then (key, v) :: (k, w) :: rest
    else if k = key then (key, v) :: rest
    else (k, w) :: insertEntry key v rest

/-- The entries sorted by key, a later one winning over an earlier one with the same key. -/
def sortEntries (entries : List (String × Value)) : List (String × Value) :=
  entries.foldl (fun sorted e => insertEntry e.1 e.2 sorted) []

/-- The map with the given entries, a later one winning over an earlier one with the same key. -/
def ofEntries (entries : List (String × Value)) : Value :=
  map (sortEntries entries)

theorem mem_keys_insertEntry {key k : String} {v : Value} {entries : List (String × Value)}
    (h : k ∈ (insertEntry key v entries).map Prod.fst) : k = key ∨ k ∈ entries.map Prod.fst := by
  induction entries with
  | nil => simpa [insertEntry] using h
  | cons e rest ih =>
    rw [insertEntry] at h
    split at h
    · simpa using h
    · split at h
      · next hk => exact .inr (by simpa [hk] using h)
      · rcases List.mem_cons.mp h with rfl | hrest
        · exact .inr List.mem_cons_self
        · exact (ih hrest).imp_right (List.mem_cons_of_mem _)

/-- Giving a key a value keeps the entries sorted. -/
theorem keysSorted_insertEntry {entries : List (String × Value)} (h : KeysSorted entries)
    (key : String) (v : Value) : KeysSorted (insertEntry key v entries) := by
  induction entries with
  | nil => simp [insertEntry, KeysSorted]
  | cons e rest ih =>
    obtain ⟨hfirst, hrest⟩ := List.pairwise_cons.mp h
    rw [insertEntry]
    split
    · next hlt =>
      refine List.pairwise_cons.mpr ⟨fun k hk => ?_, h⟩
      rcases List.mem_cons.mp hk with rfl | hk
      · exact hlt
      · exact String.lt_trans hlt (hfirst k hk)
    · next hnot =>
      split
      · next hk => exact List.pairwise_cons.mpr ⟨hk ▸ hfirst, hrest⟩
      · next hne =>
        refine List.pairwise_cons.mpr ⟨fun k hk => ?_, ih hrest⟩
        rcases mem_keys_insertEntry hk with rfl | hk
        · exact Std.lt_of_le_of_ne (String.not_lt.mp hnot) hne
        · exact hfirst k hk

/-- A map is made with sorted entries, in whatever order they are given. -/
theorem keysSorted_sortEntries (entries : List (String × Value)) :
    KeysSorted (sortEntries entries) := by
  rw [sortEntries]
  -- Sortedness is an invariant of the fold, which begins with no entry.
  suffices h : ∀ sorted, KeysSorted sorted →
      KeysSorted (entries.foldl (fun sorted e => insertEntry e.1 e.2 sorted) sorted) from
    h [] .nil
  induction entries with
  | nil => exact fun _ h => h
  | cons e rest ih => exact fun _ h => ih _ (keysSorted_insertEntry h e.1 e.2)

/-- Behind all other keys, an entry is added at the end. -/
theorem insertEntry_of_forall_lt {entries : List (String × Value)} {key : String} {v : Value}
    (h : ∀ k ∈ entries.map Prod.fst, k < key) :
    insertEntry key v entries = entries ++ [(key, v)] := by
  induction entries with
  | nil => rfl
  | cons e rest ih =>
    obtain ⟨hfirst, hrest⟩ := List.forall_mem_cons.mp h
    have hne : e.1 ≠ key := fun heq => String.lt_irrefl key (heq ▸ hfirst)
    rw [insertEntry, if_neg (String.lt_asymm hfirst), if_neg hne, ih hrest, List.cons_append]

/-- Entries that are sorted already stay as they are. -/
theorem sortEntries_of_keysSorted {entries : List (String × Value)} (h : KeysSorted entries) :
    sortEntries entries = entries := by
  rw [sortEntries]
  -- Each entry goes to the end of those before it.
  suffices hfold : ∀ sorted, KeysSorted (sorted ++ entries) →
      entries.foldl (fun sorted e => insertEntry e.1 e.2 sorted) sorted = sorted ++ entries from
    hfold [] h
  clear h
  induction entries with
  | nil => exact fun sorted _ => (List.append_nil sorted).symm
  | cons e rest ih =>
    intro sorted hsorted
    have hlast : ∀ k ∈ sorted.map Prod.fst, k < e.1 := by
      rw [KeysSorted, List.map_append, List.pairwise_append] at hsorted
      exact fun k hk => hsorted.2.2 k hk e.1 List.mem_cons_self
    rw [List.foldl_cons, insertEntry_of_forall_lt hlast, ih _ (by simpa using hsorted)]
    exact List.append_assoc sorted [e] rest

/-- The word for the kind of a value. -/
def typeName : Value → String
  | string _ => "string"
  | number _ => "number"
  | bool _ => "bool"
  | array _ => "array"
  | map _ => "map"
  | nothing => "none"

/-- Whether a value counts as true: it is not empty, not zero, not false and not absent. -/
def isTruthy : Value → Bool
  | string s => !s.isEmpty
  | number x => !(x == 0.0)
  | bool b => b
  | array items => !items.isEmpty
  | map entries => !entries.isEmpty
  | nothing => false

mutual

/-- What a value looks like in the output. -/
def text : Value → String
  | string s => s
  | number x => Number.text x
  | bool b => if b then "true" else "false"
  | array items => Text.joined ", " (texts items)
  | map entries => Text.joined ", " (entryTexts entries)
  | nothing => ""

/-- The texts of values, one by one. -/
def texts : List Value → List String
  | [] => []
  | v :: vs => v.text :: texts vs

/-- The texts of map entries: the key, a colon and the text of the value. -/
def entryTexts : List (String × Value) → List String
  | [] => []
  | (k, v) :: rest => (k ++ ": " ++ v.text) :: entryTexts rest

end

/-- The content of a text value. -/
def string? : Value → Option String
  | string s => some s
  | _ => none

/-- The number of a number value. -/
def number? : Value → Option Float
  | number x => some x
  | _ => none

/-- The items of a sequence. -/
def array? : Value → Option (List Value)
  | array items => some items
  | _ => none

/-- The whole number that decimal digits spell. -/
def natOfDigits (cs : List Char) : Nat :=
  cs.foldl (fun n c => 10 * n + (c.toNat - '0'.toNat)) 0

/-- The index that a path segment spells: decimal digits, with a plus sign in front at most. -/
def index? (segment : String) : Option Nat :=
  let digits :=
    match segment.toList with
    | '+' :: cs => cs
    | cs => cs
  if digits.isEmpty || !digits.all Char.isDigit then none else some (natOfDigits digits)

/-- The part of a value that a path segment names: the entry of a map or the item of a sequence. -/
def child? (v : Value) (segment : String) : Option Value :=
  match v with
  | map entries => entries.lookup segment
  | array items => (index? segment).bind (items[·]?)
  | _ => none

/-- The part of a value that some path segments lead to. -/
def descend? : List String → Value → Option Value
  | [], v => some v
  | segment :: rest, v => (v.child? segment).bind (descend? rest)

/-- What a loop over a value runs through: the items of a sequence, the keys of a map, nothing at
all where there is no value. The other kinds of values cannot be run through. -/
def items? : Value → Option (List Value)
  | array items => some items
  | map entries => some (entries.map fun e => string e.1)
  | nothing => some []
  | _ => none

end Value

end Stencil
