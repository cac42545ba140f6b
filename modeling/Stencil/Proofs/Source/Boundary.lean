import Stencil.Source.Position

/-!
# Boundaries between characters

A byte offset of a source is a boundary if it lies between two characters, or at one of the ends.
The boundaries are the byte counts of the leading characters.

## Main results

* `byteCount_toList`: the bytes of a source are those of its characters
* `isValid_iff_exists_byteCount`: where the boundaries are
* `Position.ofOffset_byteCount`: the position of a boundary
-/

namespace Stencil

@[simp] theorem byteCount_append (cs ds : List Char) :
    byteCount (cs ++ ds) = byteCount cs + byteCount ds := by
  induction cs with
  | nil => rw [List.nil_append, byteCount, Nat.zero_add]
  | cons c cs ih => rw [List.cons_append, byteCount, byteCount, ih, Nat.add_assoc]

theorem byteCount_eq_utf8ByteSize (cs : List Char) :
    byteCount cs = (String.ofList cs).utf8ByteSize := by
  induction cs with
  | nil => rfl
  | cons c cs ih =>
    have hsplit : String.ofList (c :: cs) = String.singleton c ++ String.ofList cs := by
      rw [String.singleton_eq_ofList, ← String.ofList_append]
      rfl
    rw [byteCount, ih, hsplit, String.utf8ByteSize_append, String.utf8ByteSize_singleton]

/-- The bytes of a source are those of its characters. -/
@[simp] theorem byteCount_toList (source : String) :
    byteCount source.toList = source.utf8ByteSize := by
  rw [byteCount_eq_utf8ByteSize, String.ofList_toList]

/-- The boundaries between characters are the byte counts of leading characters. -/
theorem isValid_iff_exists_byteCount {source : String} {n : Nat} :
    String.Pos.Raw.IsValid source ⟨n⟩ ↔
      ∃ before ahead, source.toList = before ++ ahead ∧ n = byteCount before := by
  rw [String.Pos.Raw.isValid_iff_exists_append]
  constructor
  · rintro ⟨s, t, rfl, hn⟩
    refine ⟨s.toList, t.toList, String.toList_append, ?_⟩
    rw [byteCount_toList]
    exact congrArg String.Pos.Raw.byteIdx hn
  · rintro ⟨before, ahead, hsource, rfl⟩
    refine ⟨String.ofList before, String.ofList ahead, ?_, ?_⟩
    · rw [← String.ofList_append, ← hsource, String.ofList_toList]
    · rw [byteCount_eq_utf8ByteSize]
      rfl

theorem Position.ofOffset_byteCount {source : String} {before ahead : List Char}
    (h : source.toList = before ++ ahead) :
    Position.ofOffset source (byteCount before) = Position.after before := by
  rw [Position.ofOffset, h, leading_append]

end Stencil
