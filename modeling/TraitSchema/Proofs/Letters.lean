import Mathlib
import TraitSchema.KeyMap.Records
import TraitSchema.KeyMap.Segments

namespace TraitSchema

namespace Text

theorem isAscii_of_isAlpha {c : Char} (h : c.isAlpha = true) : isAscii c = true := by
  simp [Char.isAlpha, Char.isUpper, Char.isLower, UInt32.le_iff_toNat_le] at h
  simp only [isAscii, decide_eq_true_eq]
  omega

theorem lowerAfter_of_ascii {before text : List Char} (h : ∀ c ∈ text, isAscii c = true) :
    lowerAfter before text = text.map Char.toLower := by
  induction text generalizing before with
  | nil => rfl
  | cons c rest ih =>
    obtain ⟨hc, hrest⟩ := List.forall_mem_cons.mp h
    have hs : c ≠ 'Σ' := by
      rintro rfl
      cases hc
    rw [lowerAfter, if_neg hs, lowerChar, if_pos hc, ih hrest]
    rfl

/-- The lower case of letters goes character by character. -/
theorem lower_of_isAlpha {text : List Char} (h : ∀ c ∈ text, c.isAlpha = true) :
    lower text = text.map Char.toLower :=
  lowerAfter_of_ascii fun c hc => isAscii_of_isAlpha (h c hc)

theorem isLower_of_mem_lower {text : List Char} (h : ∀ c ∈ text, c.isAlpha = true) {c : Char}
    (hc : c ∈ lower text) : c.isLower = true := by
  rw [lower_of_isAlpha h] at hc
  obtain ⟨letter, hl, rfl⟩ := List.mem_map.mp hc
  rw [Char.isLower_toLower_eq_isAlpha]
  exact h letter hl

theorem isUpper_shifted {c : Char} (h : isAscii c = false) :
    (shifted lowerSpans c).isUpper = false := by
  -- no span beyond ASCII leads to a capital letter of ASCII
  have hspans : (lowerSpans.all fun span => decide (91 ≤ span.first + span.shift)) = true := by
    decide +kernel
  have hlarge : ∀ {n : Nat}, 91 ≤ n → (Char.ofNat n).isUpper = false := by
    intro n hn
    have hchar := Char.toNat_ofNat n
    simp only [Char.isUpper, UInt32.le_iff_toNat_le, decide_eq_false_iff_not]
    change ¬ (65 ≤ (Char.ofNat n).toNat ∧ (Char.ofNat n).toNat ≤ 90)
    split at hchar <;> omega
  unfold shifted
  split
  next span hspan =>
    have hmem := List.mem_of_find?_eq_some hspan
    have hfirst := of_decide_eq_true (List.all_eq_true.mp hspans span hmem)
    have hcovers := List.find?_some hspan
    simp only [CaseSpan.covers, Bool.and_eq_true, decide_eq_true_eq] at hcovers
    apply hlarge
    omega
  next =>
    rw [← Char.ofNat_toNat c]
    apply hlarge
    simp only [isAscii, decide_eq_false_iff_not] at h
    omega

/-- Lower case has no capital letters of ASCII. -/
theorem isUpper_of_mem_lower {text : List Char} {c : Char} (h : c ∈ lower text) :
    c.isUpper = false := by
  have hchar : ∀ letter, ∀ d ∈ lowerChar letter, d.isUpper = false := by
    intro letter d hd
    unfold lowerChar at hd
    split at hd
    next =>
      rw [List.mem_singleton.mp hd]
      simp
    next ha =>
      split at hd
      next =>
        simp only [List.mem_cons, List.not_mem_nil, or_false] at hd
        rcases hd with rfl | rfl <;> rfl
      next =>
        rw [List.mem_singleton.mp hd]
        exact isUpper_shifted (by simpa using ha)
  suffices hafter : ∀ before, c ∈ lowerAfter before text → c.isUpper = false from hafter [] h
  clear h
  -- on the text for all that may stand before it, which decides between the two small sigmas
  induction text with
  | nil =>
    intro before h
    cases h
  | cons letter text ih =>
    intro before h
    rw [lowerAfter] at h
    rcases List.mem_append.mp h with h | h
    · split at h
      next =>
        rw [List.mem_singleton.mp h]
        split <;> rfl
      next => exact hchar letter c h
    · exact ih _ h

/-- Text without small letters is told by its lower case. -/
theorem map_toUpper_map_toLower {text : List Char} (h : ∀ c ∈ text, c.isLower = false) :
    (text.map Char.toLower).map Char.toUpper = text := by
  rw [List.map_map]
  refine (List.map_congr_left fun c hc => ?_).trans (List.map_id text)
  rw [Function.comp_apply, Char.toUpper_toLower_eq_toUpper,
    Char.toUpper_eq_of_not_isLower (by simp [h c hc]), id]

end Text

namespace KeyMap

theorem isKeyChar_iff {c : Char} :
    isKeyChar c = true ↔ c.isLower = true ∨ c.isDigit = true ∨ c = '_' := by
  simp [isKeyChar, Char.isLower, Char.isDigit, Char.le_def, or_assoc]

theorem isNameChar_iff {c : Char} :
    isNameChar c = true ↔ c.isLower = true ∨ c.isDigit = true ∨ c = '_' ∨ c = '*' := by
  simp [isNameChar, isKeyChar_iff, wildcard, or_assoc]

theorem isTagChar_iff {c : Char} : isTagChar c = true ↔ c.isUpper = true ∨ c = '_' := by
  simp [isTagChar, Char.isUpper, Char.le_def]

theorem isSegmentChar_iff {c : Char} : isSegmentChar c = true ↔ c.isUpper = true := by
  simp [isSegmentChar, Char.isUpper, Char.le_def]

end KeyMap

end TraitSchema
