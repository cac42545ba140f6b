import Stencil.Path
import Stencil.Proofs.Text.Fields

/-!
# Paths and their keys

The key of a path has dots between the segments. As long as there are no dots in the segments, the
key tells where they end, so the path can be had from its key. The paths that texts spell are of
this kind: a text spells the path that has the trimmed text for its key, and none if there is no
such path without empty segments.

## Main definitions

* `Path.DotFree p`: no segment has a dot in it
* `Path.Plain p`: neither are there empty segments

## Main results

* `Path.DotFree.eq_of_key_eq`: paths without dots in their segments are known by their keys
* `Path.parse?_eq_some_iff`, `Path.parse?_eq_none_iff`: which path a text spells, if any
* `dotted_paths_correspond_to_keys`: texts, paths and keys
-/

namespace Stencil

namespace Path

/-- No segment has a dot in it. -/
def DotFree (p : Path) : Prop :=
  ∀ segment ∈ p.segments, '.' ∉ segment.toList

/-- No segment is empty or has a dot in it. -/
def Plain (p : Path) : Prop :=
  ∀ segment ∈ p.segments, segment ≠ "" ∧ '.' ∉ segment.toList

instance (p : Path) : Decidable p.DotFree :=
  List.decidableBAll (fun segment : String => '.' ∉ segment.toList) p.segments

variable {p q : Path} {s : String}

theorem Plain.dotFree (h : p.Plain) : p.DotFree :=
  fun segment hsegment => (h segment hsegment).2

theorem eq_of_segments_eq (h : p.segments = q.segments) : p = q := by
  obtain ⟨head, rest⟩ := p
  obtain ⟨head', rest'⟩ := q
  obtain ⟨rfl, rfl⟩ := List.cons.inj h
  rfl

/-- The segments are found again in the key. -/
theorem DotFree.splitsInto_key (h : p.DotFree) : Text.SplitsInto '.' p.key p.segments where
  ne_nil := List.cons_ne_nil p.head p.rest
  not_mem := h
  joined_eq := rfl

/-- **Paths without dots in their segments are known by their keys.** -/
theorem DotFree.eq_of_key_eq (hp : p.DotFree) (hq : q.DotFree) (h : p.key = q.key) : p = q := by
  apply eq_of_segments_eq
  rw [← hp.splitsInto_key.fields_eq, h, hq.splitsInto_key.fields_eq]

/-! ## Paths that are spelled -/

theorem ofSegments?_eq_some_iff {segments : List String} :
    ofSegments? segments = some p ↔ "" ∉ segments ∧ p.segments = segments := by
  unfold ofSegments?
  split
  · next h => simp [List.contains_iff_mem.mp h]
  · next h =>
    have hne : "" ∉ segments := mt List.contains_iff_mem.mpr h
    cases segments with
    | nil => simp [Path.segments]
    | cons head rest =>
      rw [Option.some_inj]
      exact ⟨fun heq => ⟨hne, heq ▸ rfl⟩, fun heq => (eq_of_segments_eq heq.2).symm⟩

theorem ofSegments?_eq_none_iff {segments : List String} :
    ofSegments? segments = none ↔ segments = [] ∨ "" ∈ segments := by
  unfold ofSegments?
  split
  · next h => simp [List.contains_iff_mem.mp h]
  · next h =>
    have hne : "" ∉ segments := mt List.contains_iff_mem.mpr h
    cases segments with
    | nil => simp
    | cons head rest => simpa using hne

/-- **A text spells the path that has the trimmed text for its key.** -/
theorem parse?_eq_some_iff : parse? s = some p ↔ Text.TrimsTo s p.key ∧ p.Plain := by
  rw [parse?, ofSegments?_eq_some_iff]
  constructor
  · -- The segments are the fields of the trimmed text, and joined they are that text.
    rintro ⟨hne, hsegments⟩
    have hsplit := Text.splitsInto_fields '.' (Text.trim s)
    rw [← hsegments] at hne hsplit
    refine ⟨Text.trimsTo_iff.mpr hsplit.joined_eq.symm, fun segment hsegment => ⟨?_, ?_⟩⟩
    · exact fun hempty => hne (hempty ▸ hsegment)
    · exact hsplit.not_mem segment hsegment
  · -- The trimmed text is the key, and its fields are the segments.
    rintro ⟨htrim, hplain⟩
    rw [htrim.trim_eq, hplain.dotFree.splitsInto_key.fields_eq]
    exact ⟨fun hempty => (hplain "" hempty).1 rfl, rfl⟩

/-- A text spells no path exactly if one of the pieces between its dots is empty. -/
theorem parse?_eq_none_iff {t : String} {pieces : List String} (ht : Text.TrimsTo s t)
    (hpieces : Text.SplitsInto '.' t pieces) : parse? s = none ↔ t = "" ∨ "" ∈ pieces := by
  rw [parse?, ht.trim_eq, hpieces.fields_eq, ofSegments?_eq_none_iff]
  constructor
  · rintro (hnil | hempty)
    · exact absurd hnil hpieces.ne_nil
    · exact .inr hempty
  · rintro (rfl | hempty)
    · -- The empty text has one piece, and that is empty.
      exact .inr (hpieces.fields_eq ▸ List.mem_singleton_self "")
    · exact .inr hempty

/-- Paths that are read from texts are known by their keys. -/
theorem eq_of_key_eq_of_parse? {s' : String} (hp : parse? s = some p) (hq : parse? s' = some q)
    (hkey : p.key = q.key) : p = q :=
  (parse?_eq_some_iff.mp hp).2.dotFree.eq_of_key_eq (parse?_eq_some_iff.mp hq).2.dotFree hkey

end Path

/-- **Texts, paths and keys.** A path that is read from a text has the trimmed text for its key; no
segment of it is empty or has a dot in it; and it is read again from its key. A text spells no path
exactly if nothing is left of it when it is trimmed, or one of the pieces between its dots is empty.
Paths without dots in their segments have the same key only if they are the same. -/
theorem dotted_paths_correspond_to_keys :
    (∀ (s : String) (p : Path), Path.parse? s = some p →
      Text.TrimsTo s p.key ∧ p.Plain ∧ Path.parse? p.key = some p) ∧
    (∀ s : String, Path.parse? s = none ↔
      ∃ t pieces, Text.TrimsTo s t ∧ Text.SplitsInto '.' t pieces ∧ (t = "" ∨ "" ∈ pieces)) ∧
    ∀ p q : Path, p.DotFree → q.DotFree → p.key = q.key → p = q := by
  refine ⟨fun s p h => ?_, fun s => ⟨fun h => ?_, ?_⟩, fun p q hp hq => hp.eq_of_key_eq hq⟩
  · obtain ⟨htrim, hplain⟩ := Path.parse?_eq_some_iff.mp h
    exact ⟨htrim, hplain, Path.parse?_eq_some_iff.mpr ⟨htrim.again, hplain⟩⟩
  · have htrim := Text.trimsTo_trim s
    have hsplit := Text.splitsInto_fields '.' (Text.trim s)
    exact ⟨_, _, htrim, hsplit, (Path.parse?_eq_none_iff htrim hsplit).mp h⟩
  · rintro ⟨t, pieces, htrim, hsplit, hempty⟩
    exact (Path.parse?_eq_none_iff htrim hsplit).mpr hempty

/-- Blanks at the ends are trimmed, of whatever kind, and a blank within a segment is not. -/
theorem dotted_paths_correspond_to_keys_blanks :
    let s := "\u3000user.first name.0\n"
    let p : Path := ⟨"user", ["first name", "0"]⟩
    (Path.parse? s = some p ∧ Text.TrimsTo s "user.first name.0" ∧ p.Plain ∧
      Path.parse? "user.first name.0" = some p) ∧
    Path.parse? " a..b" = none ∧
    Path.DotFree p ∧ p = Path.ofDotted "user.first name.0" := by
  intro s p
  have hparse : Path.parse? s = some p := by decide +kernel
  have htrim : Text.TrimsTo " a..b" "a..b" := Text.trimsTo_iff.mpr (by decide +kernel)
  have hsplit : Text.SplitsInto '.' "a..b" ["a", "", "b"] :=
    Text.splitsInto_iff.mpr (by decide +kernel)
  have hfree : p.DotFree := by decide +kernel
  obtain ⟨hread, hnone, hinj⟩ := dotted_paths_correspond_to_keys
  refine ⟨⟨hparse, hread s p hparse⟩, ?_, hfree, ?_⟩
  · exact (hnone " a..b").mpr ⟨_, _, htrim, hsplit, .inr (by decide)⟩
  · exact hinj p (.ofDotted "user.first name.0") hfree (by decide +kernel) (by decide +kernel)

end Stencil
