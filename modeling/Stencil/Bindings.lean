/-!
# Bindings

A finite map from names, kept as a list of pairs in which every name has one place: binding a name
again replaces its value where it stands, so that the names stay distinct.

## Main definitions

* `Bindings`: pairs of a name and what it is bound to
* `Bindings.get?`, `Bindings.insert`, `Bindings.erase`
-/

namespace Stencil

/-- Names and what they are bound to, every name once. -/
structure Bindings (α : Type) where
  entries : List (String × α)
  nodup : (entries.map Prod.fst).Nodup

namespace Bindings

variable {α : Type}

/-- No name is bound. -/
def empty : Bindings α := ⟨[], .nil⟩

instance : Inhabited (Bindings α) := ⟨empty⟩

/-- What a name is bound to. -/
def get? (b : Bindings α) (name : String) : Option α :=
  b.entries.lookup name

/-- The entries after binding `name` to `a`. -/
def insertEntry (name : String) (a : α) : List (String × α) → List (String × α)
  | [] => [(name, a)]
  | (k, v) :: rest =>
    if k = name then (name, a) :: rest else (k, v) :: insertEntry name a rest

/-- Binding a name adds that name at most. -/
theorem mem_names_insertEntry {es : List (String × α)} {name other : String} {a : α} :
    other ∈ (insertEntry name a es).map Prod.fst ↔ other = name ∨ other ∈ es.map Prod.fst := by
  induction es with
  | nil => simp [insertEntry]
  | cons e es ih =>
    rw [insertEntry]
    split
    · next hk => simp [← hk]
    · simp only [List.map_cons, List.mem_cons, ih]
      exact or_left_comm

/-- Binding a name keeps the names distinct. -/
theorem nodup_insertEntry {es : List (String × α)} (h : (es.map Prod.fst).Nodup) (name : String)
    (a : α) : ((insertEntry name a es).map Prod.fst).Nodup := by
  induction es with
  | nil => simp [insertEntry]
  | cons e es ih =>
    obtain ⟨hk, hes⟩ := List.nodup_cons.mp h
    rw [insertEntry]
    split
    · next heq => exact List.nodup_cons.mpr ⟨heq ▸ hk, hes⟩
    · next hne =>
      refine List.nodup_cons.mpr ⟨fun hmem => ?_, ih hes⟩
      exact (mem_names_insertEntry.mp hmem).elim hne hk

/-- Bind `name` to `a`. -/
def insert (b : Bindings α) (name : String) (a : α) : Bindings α :=
  ⟨insertEntry name a b.entries, nodup_insertEntry b.nodup name a⟩

/-- Leave `name` unbound. -/
def erase (b : Bindings α) (name : String) : Bindings α :=
  ⟨b.entries.filter (·.1 ≠ name), b.nodup.sublist (List.filter_sublist.map Prod.fst)⟩

/-- Bind every name of a list, a later pair winning over an earlier one. -/
def ofList (pairs : List (String × α)) : Bindings α :=
  pairs.foldl (fun b p => b.insert p.1 p.2) empty

@[simp] theorem get?_empty (name : String) : (empty : Bindings α).get? name = none := rfl

theorem lookup_insertEntry (es : List (String × α)) (name other : String) (a : α) :
    (insertEntry name a es).lookup other = if other = name then some a else es.lookup other := by
  induction es with
  | nil => grind [insertEntry]
  | cons e es ih =>
    obtain ⟨k, v⟩ := e
    grind [insertEntry]

/-- Binding a name changes what that name is bound to, and nothing else. -/
@[simp] theorem get?_insert (b : Bindings α) (name other : String) (a : α) :
    (b.insert name a).get? other = if other = name then some a else b.get? other :=
  lookup_insertEntry b.entries name other a

/-- Erasing a name unbinds that name, and nothing else. -/
@[simp] theorem get?_erase (b : Bindings α) (name other : String) :
    (b.erase name).get? other = if other = name then none else b.get? other := by
  simp only [erase, get?]
  induction b.entries with
  | nil => simp
  | cons e es ih =>
    obtain ⟨k, v⟩ := e
    by_cases hk : k = name
    · subst hk
      by_cases ho : other = k
      · simpa [ho] using ih
      · have : (other == k) = false := by simpa using ho
        simpa [List.lookup_cons, this, ho] using ih
    · by_cases ho : other = k
      · subst ho; simp [hk]
      · have : (other == k) = false := by simpa using ho
        simpa [List.lookup_cons, this, hk] using ih

end Bindings

end Stencil
