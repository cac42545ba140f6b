import Stencil.Filter.Standard
import Stencil.Proofs.Text.Markup

/-!
# Markup and the standard filters

No standard filter makes markup out of a text: case conversions map no other character to markup,
numbers are spelled without it, and what remains are parts of the text and of the argument. So
markup in the outcome of a filter was in the text that it was given, or in the text of its argument.

## Main definitions

* `Filter.MakesNoMarkup f`: markup in what `f` makes of a text was there before

## Main results

* `Text.mem_upper`, `Text.mem_lower`, `Text.mem_capitalize`: case conversions make no markup
* `Text.mem_fields`, `Text.mem_joined`: the characters of fields and of texts in a row
* `Number.clean_text`: nothing in the text of a number is markup
* `Filter.makesNoMarkup_of_mem_standard`, `Registry.makesNoMarkup_standard`: markup in the outcome
  of a standard filter comes from the text or from the argument
-/

namespace Stencil

variable {ch : Char}

/-! ## Texts -/

namespace Text

/-- The code points of markup lie between 0 and 0x3E, which is `>`. -/
theorem toNat_of_isMarkup (hch : isMarkup ch = true) : 0 < ch.toNat ∧ ch.toNat ≤ 0x3E := by
  simp only [isMarkup, Bool.or_eq_true, beq_iff_eq] at hch
  rcases hch with ((rfl | rfl) | rfl) | rfl <;> decide

/-- No character behind `>` is markup, nor is what stands for a code point that is none. -/
theorem isMarkup_ofNat {n : Nat} (hn : 0x3E < n) : isMarkup (Char.ofNat n) = false := by
  have hcode : (Char.ofNat n).toNat = n ∨ (Char.ofNat n).toNat = 0 := by
    by_cases hvalid : n.isValidChar
    · exact .inl (congrArg Char.toNat (dif_pos hvalid))
    · exact .inr (congrArg Char.toNat (dif_neg hvalid))
  cases hmarkup : isMarkup (Char.ofNat n) with
  | false => rfl
  | true =>
    have hbounds := toNat_of_isMarkup hmarkup
    omega

theorem isMarkup_of_isDigit (hch : ch.isDigit = true) : isMarkup ch = false := by
  cases hmarkup : isMarkup ch with
  | false => rfl
  | true =>
    simp only [isMarkup, Bool.or_eq_true, beq_iff_eq] at hmarkup
    rcases hmarkup with ((rfl | rfl) | rfl) | rfl <;> exact absurd hch (by decide)

section Case

variable {c : Char} {s : String}

/-- A case mapping whose images all lie behind `>` gives markup only where it leaves it alone. -/
theorem eq_of_mem_mapCase {runs : List CaseRun} {expansions : List (Nat × List Nat)}
    (hruns : ∀ r ∈ runs, 0x3E < r.image) (hexpansions : ∀ e ∈ expansions, ∀ n ∈ e.2, 0x3E < n)
    (hch : isMarkup ch = true) (h : ch ∈ mapCase runs expansions c) : ch = c := by
  rw [mapCase] at h
  split at h
  · next n hn =>
    -- A run only adds to the image of its first code point.
    obtain ⟨r, hr, himage⟩ := List.exists_of_findSome?_eq_some hn
    rw [CaseRun.image?] at himage
    split at himage
    · have hlt : 0x3E < n := by
        have := hruns r hr
        have := Option.some.inj himage
        omega
      rw [List.mem_singleton.mp h, isMarkup_ofNat hlt] at hch
      cases hch
    · cases himage
  · split at h
    · next ns hns =>
      obtain ⟨n, hmem, rfl⟩ := List.mem_map.mp h
      obtain ⟨before, after, hlist, -⟩ := List.lookup_eq_some_iff.mp hns
      have hlt := hexpansions (c.toNat, ns) (by simp [hlist]) n hmem
      rw [isMarkup_ofNat hlt] at hch
      cases hch
    · exact List.mem_singleton.mp h

/-- So does a conversion that treats the ASCII characters by themselves. -/
theorem eq_of_mem_conversion {ascii : Char → Char} {runs : List CaseRun}
    {expansions : List (Nat × List Nat)}
    (hascii : ∀ n < 0x80, isMarkup (ascii (Char.ofNat n)) = true →
      ascii (Char.ofNat n) = Char.ofNat n)
    (hruns : ∀ r ∈ runs, 0x3E < r.image) (hexpansions : ∀ e ∈ expansions, ∀ n ∈ e.2, 0x3E < n)
    (hch : isMarkup ch = true)
    (h : ch ∈ if c.toNat < 0x80 then [ascii c] else mapCase runs expansions c) : ch = c := by
  split at h
  · -- The ASCII characters are few enough to go through them by their code points.
    next hlt =>
    have hc := hascii c.toNat hlt
    rw [Char.ofNat_toNat] at hc
    rw [List.mem_singleton.mp h] at hch ⊢
    exact hc hch
  · exact eq_of_mem_mapCase hruns hexpansions hch h

theorem eq_of_mem_upperChar (hch : isMarkup ch = true) (h : ch ∈ upperChar c) : ch = c :=
  eq_of_mem_conversion (by decide) (by decide +kernel) (by decide +kernel) hch h

theorem eq_of_mem_lowerChar (hch : isMarkup ch = true) (h : ch ∈ lowerChar c) : ch = c :=
  eq_of_mem_conversion (by decide) (by decide +kernel) (by decide +kernel) hch h

/-- Markup in upper case was there before. -/
theorem mem_upper (hch : isMarkup ch = true) (h : ch ∈ (upper s).toList) : ch ∈ s.toList := by
  rw [upper, String.toList_ofList] at h
  obtain ⟨c, hc, hmem⟩ := List.mem_flatMap.mp h
  rwa [eq_of_mem_upperChar hch hmem]

/-- Markup in lower case was there before; a sigma is none in either form. -/
theorem mem_lower (hch : isMarkup ch = true) (h : ch ∈ (lower s).toList) : ch ∈ s.toList := by
  have hfrom (before cs : List Char) (hmem : ch ∈ lowerFrom before cs) : ch ∈ cs := by
    induction cs generalizing before with
    | nil => exact hmem
    | cons c after ih =>
      -- The image of the character at hand, or that of a character behind it.
      rcases List.mem_append.mp hmem with hmem | hmem
      · rw [lowerAmong] at hmem
        split at hmem
        · rw [List.mem_singleton.mp hmem] at hch
          split at hch <;> exact absurd hch (by decide)
        · rw [eq_of_mem_lowerChar hch hmem]
          exact List.mem_cons_self
      · exact List.mem_cons_of_mem c (ih (c :: before) hmem)
  rw [lower, String.toList_ofList] at h
  exact hfrom [] s.toList h

theorem mem_capitalize (hch : isMarkup ch = true) (h : ch ∈ (capitalize s).toList) :
    ch ∈ s.toList := by
  rw [capitalize] at h
  split at h
  · exact (List.not_mem_nil h).elim
  · next c cs hs =>
    rw [hs]
    rw [String.toList_ofList] at h
    rcases List.mem_append.mp h with hmem | hmem
    · rw [eq_of_mem_upperChar hch hmem]
      exact List.mem_cons_self
    · exact List.mem_cons_of_mem c hmem

end Case

/-- The characters of a field are characters of the text. -/
theorem mem_fields {sep : Char} {s w : String} (hw : w ∈ fields sep s) (h : ch ∈ w.toList) :
    ch ∈ s.toList := by
  have hcut (cs piece : List Char) (hpiece : piece ∈ cut sep cs) (hmem : ch ∈ piece) : ch ∈ cs := by
    induction cs generalizing piece with
    | nil =>
      rw [List.mem_singleton.mp hpiece] at hmem
      exact hmem
    | cons c cs ih =>
      rw [cut] at hpiece
      split at hpiece
      · rcases List.mem_cons.mp hpiece with rfl | hpiece
        · exact (List.not_mem_nil hmem).elim
        · exact List.mem_cons_of_mem c (ih piece hpiece hmem)
      · cases hrest : cut sep cs with
        | nil => exact absurd hrest (cut_ne_nil sep cs)
        | cons first pieces =>
          rw [hrest] at hpiece ih
          -- The character at hand begins the first piece; the other pieces are as before.
          rcases List.mem_cons.mp hpiece with rfl | hpiece
          · rcases List.mem_cons.mp hmem with rfl | hmem
            · exact List.mem_cons_self
            · exact List.mem_cons_of_mem c (ih first List.mem_cons_self hmem)
          · exact List.mem_cons_of_mem c (ih piece (List.mem_cons_of_mem first hpiece) hmem)
  obtain ⟨piece, hpiece, rfl⟩ := List.mem_map.mp hw
  rw [String.toList_ofList] at h
  exact hcut s.toList piece hpiece h

/-- The characters of texts in a row are those of the texts and of what is between them. -/
theorem mem_joined {sep : String} {ws : List String} (h : ch ∈ (joined sep ws).toList) :
    ch ∈ sep.toList ∨ ∃ w ∈ ws, ch ∈ w.toList := by
  induction ws with
  | nil => exact (List.not_mem_nil h).elim
  | cons w rest ih =>
    cases rest with
    | nil => exact .inr ⟨w, List.mem_cons_self, h⟩
    | cons w' rest =>
      rw [joined, String.toList_append, String.toList_append] at h
      rcases List.mem_append.mp h with h | h
      · rcases List.mem_append.mp h with h | h
        · exact .inr ⟨w, List.mem_cons_self, h⟩
        · exact .inl h
      · rcases ih h with h | ⟨v, hv, h⟩
        · exact .inl h
        · exact .inr ⟨v, List.mem_cons_of_mem w hv, h⟩

end Text

/-! ## Numbers -/

namespace Number

open Text (isMarkup Clean)

theorem Decimal.clean_text (d : Decimal) : Clean d.text := by
  intro ch h
  have hdigits : ∀ c ∈ Nat.toDigits 10 d.digits, isMarkup c = false := fun c hc =>
    Text.isMarkup_of_isDigit (Nat.isDigit_of_mem_toDigits (by decide) (by decide) hc)
  have hzeros (n : Nat) : ∀ c ∈ List.replicate n '0', isMarkup c = false := by
    intro c hc
    rw [List.eq_of_mem_replicate hc]
    rfl
  simp only [Decimal.text] at h
  split at h
  · -- A whole number has zeros behind its digits.
    rw [String.toList_ofList] at h
    rcases List.mem_append.mp h with h | h
    · exact hdigits ch h
    · exact hzeros _ ch h
  · rw [String.toList_ofList] at h
    -- What is before the point and what is behind it are parts of the padded digits.
    rcases List.mem_append.mp h with h | h
    · rcases List.mem_append.mp (List.mem_of_mem_take h) with h | h
      · exact hzeros _ ch h
      · exact hdigits ch h
    · rcases List.mem_cons.mp h with rfl | h
      · rfl
      · rcases List.mem_append.mp (List.mem_of_mem_drop h) with h | h
        · exact hzeros _ ch h
        · exact hdigits ch h

theorem Dyadic.clean_text (d : Dyadic) : Clean d.text := by
  intro ch h
  unfold Dyadic.text at h
  cases hmagnitude : d.magnitude? with
  | none =>
    rw [hmagnitude] at h
    exact d.shortest.clean_text ch h
  | some n =>
    simp only [hmagnitude] at h
    split at h
    · rw [Nat.toString_eq_ofList_toDigits, String.toList_ofList] at h
      exact Text.isMarkup_of_isDigit (Nat.isDigit_of_mem_toDigits (by decide) (by decide) h)
    · exact d.shortest.clean_text ch h

/-- **Nothing in the text of a number is markup.** -/
theorem clean_text (x : Float) : Clean (text x) := by
  intro ch h
  rw [text] at h
  split at h
  · exact (by decide : Clean "NaN") ch h
  · split at h
    · exact (by decide : Clean "-inf") ch h
    · exact (by decide : Clean "inf") ch h
  · split at h
    · rw [String.toList_append] at h
      rcases List.mem_append.mp h with h | h
      · exact (by decide : Clean "-") ch h
      · exact Dyadic.clean_text _ ch h
    · exact Dyadic.clean_text _ ch h

end Number

/-! ## Filters -/

namespace Filter

open Text (isMarkup Clean)

/-- Where the filter makes something of a text, markup in the outcome comes from the text, or from
the text of the argument. -/
def MakesNoMarkup (f : Filter) : Prop :=
  ∀ s arg w, (f.apply (.string s) arg).result = .ok w → ∀ ch, isMarkup ch = true →
    ch ∈ w.text.toList → ch ∈ s.toList ∨ ∃ a, arg = some a ∧ ch ∈ a.text.toList

variable {s : String} {arg : Option Value}

/-- Markup in one of the choices of `yesno` comes from the argument: those that serve without an
argument have none. -/
theorem mem_of_choice (hch : isMarkup ch = true) {choice : String}
    (hchoice : choice ∈ Text.fields ',' ((arg.map Value.text).getD "yes,no,maybe"))
    (h : ch ∈ choice.toList) : ∃ a, arg = some a ∧ ch ∈ a.text.toList := by
  have hmem := Text.mem_fields hchoice h
  cases arg with
  | none =>
    rw [(by decide : Clean "yes,no,maybe") ch hmem] at hch
    cases hch
  | some a => exact ⟨a, rfl, hmem⟩

/-- A character that is picked out of a text, if there is one, is a character of the text. -/
theorem mem_of_part {pick : Option Char} (hpick : ∀ c, pick = some c → c ∈ s.toList)
    (h : ch ∈ ((pick.map fun c => Value.string (String.singleton c)).getD .nothing).text.toList) :
    ch ∈ s.toList := by
  cases pick with
  | none => exact (List.not_mem_nil h).elim
  | some c =>
    have hc : ch ∈ (String.singleton c).toList := h
    rw [String.toList_singleton, List.mem_singleton] at hc
    rw [hc]
    exact hpick c rfl

/-- **The standard filters make no markup.** -/
theorem makesNoMarkup_of_mem_standard {f : Filter} (hf : f ∈ standard) : f.MakesNoMarkup := by
  intro s arg w hw ch hch h
  have harg (hmem : ch ∈ (arg.getD .nothing).text.toList) :
      ∃ a, arg = some a ∧ ch ∈ a.text.toList := by
    cases arg with
    | none => exact (List.not_mem_nil hmem).elim
    | some a => exact ⟨a, rfl, hmem⟩
  simp only [standard, List.mem_cons, List.not_mem_nil, or_false] at hf
  rcases hf with rfl | rfl | rfl | rfl | rfl | rfl | rfl | rfl | rfl | rfl | rfl
  · -- `default`
    obtain rfl := Except.ok.inj hw
    dsimp only at h
    split at h
    · exact .inl h
    · exact .inr (harg h)
  · -- `upper`
    obtain rfl := Except.ok.inj hw
    exact .inl (Text.mem_upper hch h)
  · -- `lower`
    obtain rfl := Except.ok.inj hw
    exact .inl (Text.mem_lower hch h)
  · -- `capfirst`
    obtain rfl := Except.ok.inj hw
    exact .inl (Text.mem_capitalize hch h)
  · -- `title`
    obtain rfl := Except.ok.inj hw
    rcases Text.mem_joined h with h | ⟨word, hword, h⟩
    · rw [List.mem_singleton.mp h] at hch
      exact absurd hch (by decide)
    · obtain ⟨field, hfield, rfl⟩ := List.mem_map.mp hword
      exact .inl (Text.mem_fields hfield (Text.mem_lower hch (Text.mem_capitalize hch h)))
  · -- `length`
    obtain rfl := Except.ok.inj hw
    rw [Number.clean_text _ ch h] at hch
    cases hch
  · -- `first`
    obtain rfl := Except.ok.inj hw
    exact .inl (mem_of_part (fun _ => List.mem_of_head?) h)
  · -- `last`
    obtain rfl := Except.ok.inj hw
    exact .inl (mem_of_part (fun _ => List.mem_of_getLast?) h)
  · -- `join`
    obtain rfl := Except.ok.inj hw
    exact .inl h
  · -- `add`
    obtain rfl := Except.ok.inj hw
    rcases List.mem_append.mp (String.toList_append ▸ h) with h | h
    · exact .inl h
    · exact .inr (harg h)
  · -- `yesno`
    simp only [yesno, fallible] at hw
    split at hw
    · next yes no rest hfields =>
      obtain rfl := Except.ok.inj hw
      have hchoice : (if (Value.string s).isTruthy then yes else no) ∈
          Text.fields ',' ((arg.map Value.text).getD "yes,no,maybe") := by
        rw [hfields]
        split <;> simp
      exact .inr (mem_of_choice hch hchoice h)
    · cases hw

end Filter

namespace Registry

/-- A filter of a registry is one of those that were registered, or was there before. -/
theorem mem_or_of_get?_registerAll {r : Registry} {fs : List Filter} {name : String} {f : Filter}
    (h : (r.registerAll fs).get? name = some f) : f ∈ fs ∨ r.get? name = some f := by
  induction fs generalizing r with
  | nil => exact .inr h
  | cons g rest ih =>
    rcases ih h with hmem | hget
    · exact .inl (List.mem_cons_of_mem g hmem)
    · rw [get?_register] at hget
      split at hget
      · rw [← Option.some.inj hget]
        exact .inl List.mem_cons_self
      · exact .inr hget

/-- The filters of the standard registry are the standard filters. -/
theorem mem_standard_of_get? {name : String} {f : Filter}
    (h : Registry.standard.get? name = some f) : f ∈ Filter.standard := by
  refine (mem_or_of_get?_registerAll h).resolve_right fun hempty => ?_
  rw [get?, empty, Bindings.get?_empty] at hempty
  cases hempty

theorem makesNoMarkup_standard {name : String} {f : Filter}
    (h : Registry.standard.get? name = some f) : f.MakesNoMarkup :=
  Filter.makesNoMarkup_of_mem_standard (mem_standard_of_get? h)

end Registry

end Stencil
