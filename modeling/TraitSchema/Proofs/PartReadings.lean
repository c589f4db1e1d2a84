import TraitSchema.Proofs.RecordTexts

namespace TraitSchema.KeyMap

variable {text left : List Char}

theorem flag?_eq_some_iff {b : Bool} : flag? text = some (b, left) ↔ text = flagText b ++ left := by
  constructor
  · intro h
    unfold flag? at h
    split at h <;> cases h <;> rfl
  · rintro rfl
    exact flag?_written b left

theorem dropWhile_isSpace_flagText (b : Bool) (rest : List Char) :
    (flagText b ++ rest).dropWhile Text.isSpace = flagText b ++ rest := by
  cases b <;> rfl

theorem nextFlag?_spaced {gap : List Char} (h : ∀ c ∈ gap, Text.isSpace c = true) (b : Bool)
    (rest : List Char) : nextFlag? (',' :: (gap ++ (flagText b ++ rest))) = some (b, rest) := by
  rw [nextFlag?, List.dropWhile_append_of_pos h, dropWhile_isSpace_flagText]
  exact flag?_written b rest

theorem nextFlag?_eq_some_iff {b : Bool} :
    nextFlag? text = some (b, left) ↔
      ∃ gap, (∀ c ∈ gap, Text.isSpace c = true) ∧ text = ',' :: (gap ++ (flagText b ++ left)) := by
  constructor
  · intro h
    unfold nextFlag? at h
    split at h
    next rest =>
      refine ⟨rest.takeWhile Text.isSpace, fun c hc => List.mem_takeWhile_imp hc, ?_⟩
      rw [← flag?_eq_some_iff.mp h, List.takeWhile_append_dropWhile]
    next => cases h
  · rintro ⟨gap, hgap, rfl⟩
    exact nextFlag?_spaced hgap b left

theorem FlagsText.chars_append (f : FlagsText) (left : List Char) :
    f.chars ++ left = '\x7b' :: (flagText f.operators.set ++ ',' :: (f.beforeAdd ++
      (flagText f.operators.add ++ ',' :: (f.beforeRemove ++ (flagText f.operators.remove ++
        ',' :: (f.beforeDelete ++ (flagText f.operators.delete ++ '\x7d' :: left))))))) := by
  simp only [chars, List.append_assoc, List.cons_append, List.nil_append]

theorem flags?_eq_some_iff {operators : OperatorSet} :
    flags? text = some (operators, left) ↔
      ∃ f : FlagsText, f.operators = operators ∧ text = f.chars ++ left := by
  constructor
  · intro h
    unfold flags? at h
    split at h
    next text =>
      simp only [Option.bind_eq_bind, Option.bind_eq_some_iff, Prod.exists] at h
      obtain ⟨set, text₁, h₁, add, text₂, h₂, remove, text₃, h₃, delete, text₄, h₄, h⟩ := h
      obtain ⟨beforeAdd, ha, rfl⟩ := nextFlag?_eq_some_iff.mp h₂
      obtain ⟨beforeRemove, hr, rfl⟩ := nextFlag?_eq_some_iff.mp h₃
      obtain ⟨beforeDelete, hd, rfl⟩ := nextFlag?_eq_some_iff.mp h₄
      split at h
      next rest =>
        cases h
        refine ⟨⟨⟨set, add, remove, delete⟩, beforeAdd, beforeRemove, beforeDelete, ha, hr, hd⟩,
          rfl, ?_⟩
        rw [FlagsText.chars_append, flag?_eq_some_iff.mp h₁]
      next => cases h
    next => cases h
  · rintro ⟨f, rfl, rfl⟩
    simp only [FlagsText.chars_append, flags?, flag?_written, nextFlag?_spaced f.add_spaced,
      nextFlag?_spaced f.remove_spaced, nextFlag?_spaced f.delete_spaced, Option.bind_eq_bind,
      Option.bind_some]

theorem after?_dropWhile_eq_some {p : Char → Bool} {lead rest : List Char}
    (h : Text.after? lead (text.dropWhile p) = some rest) :
    text = text.takeWhile p ++ (lead ++ rest) := by
  rw [← Text.after?_eq_some_iff.mp h, List.takeWhile_append_dropWhile]

theorem tag?_eq_some_iff {tag : TypeTag} :
    tag? text = some (tag, left) ↔
      ∃ letters, letters ≠ [] ∧ (∀ c ∈ letters, isTagChar c = true) ∧
        tag = ⟨String.ofList letters⟩ ∧
          text = "TRAIT_TYPE_".toList ++ letters ++ ',' :: left := by
  constructor
  · intro h
    unfold tag? at h
    obtain ⟨rest, hr, h⟩ := Option.bind_eq_some_iff.mp h
    rw [Text.after?_eq_some_iff] at hr
    split at h
    next => cases h
    next letters after _ hafter hnil =>
      cases h
      refine ⟨rest.takeWhile isTagChar, hnil, fun c hc => List.mem_takeWhile_imp hc, rfl, ?_⟩
      rw [hr, List.append_assoc, ← hafter, List.takeWhile_append_dropWhile]
    next => cases h
  · rintro ⟨letters, hne, hletters, rfl, rfl⟩
    exact tag?_written hletters hne left

theorem key?_eq_some_iff {key : String} :
    key? text = some (key, left) ↔
      ∃ letters, (∀ c ∈ letters, isKeyChar c = true) ∧ key = String.ofList letters ∧
        text = '"' :: letters ++ '"' :: ',' :: left := by
  constructor
  · intro h
    unfold key? at h
    split at h
    next text =>
      obtain ⟨rest, hr, h⟩ := Option.bind_eq_some_iff.mp h
      cases h
      refine ⟨text.takeWhile isKeyChar, fun c hc => List.mem_takeWhile_imp hc, rfl, ?_⟩
      exact congrArg ('"' :: ·) (after?_dropWhile_eq_some hr)
    next => cases h
  · rintro ⟨letters, hletters, rfl, rfl⟩
    exact key?_written hletters left

theorem name?_eq_some_iff {segment : List Char} {name : String} :
    name? segment text = some (name, left) ↔
      ∃ suffix, (∀ c ∈ suffix, isNameChar c = true) ∧
        name = String.ofList (segment ++ ':' :: suffix) ∧
          text = '"' :: segment ++ ':' :: suffix ++ '"' :: ',' :: left := by
  constructor
  · intro h
    unfold name? at h
    obtain ⟨rest, hr, h⟩ := Option.bind_eq_some_iff.mp h
    obtain ⟨rest', hr', h⟩ := Option.bind_eq_some_iff.mp h
    cases h
    refine ⟨rest.takeWhile isNameChar, fun c hc => List.mem_takeWhile_imp hc, rfl, ?_⟩
    rw [Text.after?_eq_some_iff.mp hr]
    have hrest := after?_dropWhile_eq_some hr'
    simp only [List.append_assoc, List.cons_append, List.nil_append] at hrest ⊢
    rw [← hrest]
  · rintro ⟨suffix, hsuffix, rfl, rfl⟩
    exact name?_written hsuffix left

end TraitSchema.KeyMap
