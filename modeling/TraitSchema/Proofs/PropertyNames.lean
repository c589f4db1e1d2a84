import TraitSchema.Conformance.Checks
import TraitSchema.Proofs.DeclaredNames
import TraitSchema.Proofs.InsertionRuns
import TraitSchema.Proofs.RecordReadings

namespace TraitSchema

theorem patternName_wildcard (name : List Char) :
    patternName (wildcard :: name) = familyPattern.toList ++ patternName name := rfl

section Capitals

variable {name other : List Char}

/-- A capital letter is reached through the bracket of a wildcard alone. -/
theorem patternName_ne_of_capital {lead : List Char} {capital : Char} (rest : List Char)
    (hname : ∀ c ∈ name, c.isUpper = false) (hlead : '[' ∉ lead) (hc : capital.isUpper = true) :
    patternName name ≠ lead ++ capital :: rest := by
  induction lead generalizing name with
  | nil =>
    intro h
    cases name with
    | nil => cases h
    | cons c name =>
      by_cases hw : c = wildcard
      · subst hw
        have hbracket : capital = '[' := (List.cons.inj h).1.symm
        rw [hbracket] at hc
        cases hc
      · rw [patternName_cons hw] at h
        have hsame : c = capital := (List.cons.inj h).1
        have hsmall := hname c List.mem_cons_self
        rw [hsame, hc] at hsmall
        cases hsmall
  | cons l lead ih =>
    rw [List.mem_cons, not_or] at hlead
    intro h
    cases name with
    | nil => cases h
    | cons c name =>
      by_cases hw : c = wildcard
      · subst hw
        exact hlead.1 (List.cons.inj h).1
      · rw [patternName_cons hw] at h
        exact ih (fun d hd => hname d (List.mem_cons_of_mem c hd)) hlead.2 (List.cons.inj h).2

theorem patternName_cons_ne_wildcard {c : Char} (hc : c ≠ wildcard)
    (hname : ∀ d ∈ name, d.isUpper = false) (rest : List Char) :
    patternName (c :: name) ≠ familyPattern.toList ++ rest := by
  have hsplit : familyPattern.toList ++ rest =
      '[' :: ("a-z".toList ++ 'A' :: ("-Z0-9@#$]+$".toList ++ rest)) := rfl
  rw [patternName_cons hc, hsplit]
  intro h
  -- `c` may be the bracket itself, but then the name would have to lead to the `A` of the class
  exact patternName_ne_of_capital _ hname (by decide) rfl (List.cons.inj h).2

theorem patternName_inj (hname : ∀ c ∈ name, c.isUpper = false)
    (hother : ∀ c ∈ other, c.isUpper = false) (h : patternName name = patternName other) :
    name = other := by
  have hne : ∀ c rest, patternName (c :: rest) ≠ [] := by
    intro c rest
    by_cases hw : c = wildcard
    · subst hw
      exact List.cons_ne_nil _ _
    · rw [patternName_cons hw]
      exact List.cons_ne_nil _ _
  induction name generalizing other with
  | nil =>
    cases other with
    | nil => rfl
    | cons d other => exact absurd h.symm (hne d other)
  | cons c name ih =>
    cases other with
    | nil => exact absurd h (hne c name)
    | cons d other =>
      have hrest := (List.forall_mem_cons.mp hname).2
      have hrest' := (List.forall_mem_cons.mp hother).2
      by_cases hc : c = wildcard
      · subst hc
        by_cases hd : d = wildcard
        · subst hd
          rw [patternName_wildcard, patternName_wildcard, List.append_cancel_left_eq] at h
          rw [ih hrest hrest' h]
        · exact absurd h.symm (patternName_cons_ne_wildcard hd hrest' _)
      · by_cases hd : d = wildcard
        · subst hd
          exact absurd h (patternName_cons_ne_wildcard hc hrest _)
        · rw [patternName_cons hc, patternName_cons hd] at h
          obtain ⟨hsame, htail⟩ := List.cons.inj h
          rw [hsame, ih hrest hrest' htail]

theorem patternName_eq_self_iff (hname : ∀ c ∈ name, c.isUpper = false) :
    patternName name = name ↔ wildcard ∉ name := by
  refine ⟨fun h hw => ?_, patternName_of_not_mem⟩
  obtain ⟨front, rest, rfl⟩ := List.append_of_mem hw
  have hcapital : 'A' ∈ patternName (front ++ wildcard :: rest) := by
    rw [patternName_append, patternName_wildcard]
    have hmem : 'A' ∈ familyPattern.toList := by decide
    simp [hmem]
  rw [h] at hcapital
  exact absurd (hname 'A' hcapital) (by decide)

/-- The checks tell families by the listed name as the declared name does. -/
theorem isFamilyName_patternName (hname : ∀ c ∈ name, c.isUpper = false) :
    Conformance.isFamilyName (String.ofList (patternName name)) = true ↔ wildcard ∈ name := by
  rw [Conformance.isFamilyName, String.toList_ofList, Bool.or_eq_true, List.contains_iff_mem,
    Text.occurs_iff]
  constructor
  · intro h
    by_contra hw
    rw [patternName_of_not_mem hw] at h
    rcases h with h | h
    · exact hw h
    · have hmem : 'A' ∈ familyPattern.toList := by decide
      exact absurd (hname 'A' (h.subset hmem)) (by decide)
  · intro hw
    obtain ⟨front, rest, rfl⟩ := List.append_of_mem hw
    right
    exact ⟨patternName front, patternName rest, by
      rw [patternName_append, patternName_wildcard, List.append_assoc]⟩

end Capitals

theorem KeyMap.isUpper_of_isDeclaredChar {c : Char} (h : isDeclaredChar c = true) :
    c.isUpper = false := by
  rcases isDeclaredChar_iff.mp h with h | h | rfl | rfl | rfl
  · simpa using Char.not_isUpper_of_isLower h
  · simp only [Char.isDigit, Char.isUpper, UInt32.le_iff_toNat_le] at h ⊢
    simp at h ⊢
    omega
  · rfl
  · rfl
  · rfl

namespace Declaration

variable {d e : Declaration}

/-- The declaration is read from some key map for some segment. -/
def IsRecorded (d : Declaration) : Prop := ∃ segment text, d ∈ KeyMap.records segment text

theorem IsRecorded.no_capitals (h : d.IsRecorded) : ∀ c ∈ d.name.toList, c.isUpper = false := by
  obtain ⟨segment, text, hd⟩ := h
  obtain ⟨_, _, _, hr⟩ := Text.exists_of_mem_scan hd
  obtain ⟨r, rfl, -, -⟩ := KeyMap.record?_eq_some_iff.mp hr
  intro c hc
  rw [KeyMap.RecordText.declaration, String.toList_ofList, List.mem_append, List.mem_cons] at hc
  rcases hc with hc | rfl | hc
  · exact Text.isUpper_of_mem_lower hc
  · rfl
  · have hname : KeyMap.isDeclaredChar c = true := by
      simp [KeyMap.isDeclaredChar, r.suffix_chars c hc]
    exact KeyMap.isUpper_of_isDeclaredChar hname

theorem IsRecorded.propertyName_eq_iff (hd : d.IsRecorded) (he : e.IsRecorded) :
    d.propertyName = e.propertyName ↔ d.name = e.name := by
  constructor
  · intro h
    rw [propertyName, propertyName, ← String.toList_inj, String.toList_ofList,
      String.toList_ofList] at h
    exact String.toList_inj.mp (patternName_inj hd.no_capitals he.no_capitals h)
  · intro h
    rw [propertyName, propertyName, h]

theorem IsRecorded.isFamilyName_propertyName (h : d.IsRecorded) :
    Conformance.isFamilyName d.propertyName = d.isWildcard := by
  rw [Bool.eq_iff_iff, propertyName, isFamilyName_patternName h.no_capitals, isWildcard,
    List.contains_iff_mem]

end Declaration

/-- The name of the placement was taken when it was offered to the fragment. -/
def InsertOutcome.IsTaken (outcome : InsertOutcome) : Prop :=
  outcome = .duplicate ∨ ∃ kept, outcome = .conflict kept

theorem isTaken_answerTo_iff {p : Placement} {first : Option Placement} :
    (answerTo p first).IsTaken ↔ first ≠ none := by
  cases first with
  | none => simp [answerTo, InsertOutcome.IsTaken]
  | some q =>
    rw [answerTo]
    split <;> simp [InsertOutcome.IsTaken]

theorem isTaken_insert_iff {t : AdminType} {ps : List Placement} {p : Placement} :
    (((Fragment.empty t).insertAll ps).insert p).2.IsTaken ↔ ∃ q ∈ ps, q.name = p.name := by
  rw [Fragment.insert_outcome, isTaken_answerTo_iff, Fragment.find?_insertAll_empty]
  simp [List.find?_eq_none]

/-- The name under which a schema lists a declared name is that name unless it has a wildcard, tells
it from all others, and tells the checks whether it has a wildcard. So a declaration finds its name
taken, whatever operations it and the others support, if and only if one that was inserted before
declares the same name. -/
theorem listed_names_identify :
    (∀ name other : List Char, (∀ c ∈ name, KeyMap.isDeclaredChar c = true) →
      (∀ c ∈ other, KeyMap.isDeclaredChar c = true) →
      patternName name = patternName other → name = other) ∧
    (∀ name : List Char, (∀ c ∈ name, KeyMap.isDeclaredChar c = true) →
      (patternName name = name ↔ wildcard ∉ name) ∧
      (Conformance.isFamilyName (String.ofList (patternName name)) = true ↔ wildcard ∈ name)) ∧
    (∀ d : Declaration, d.IsRecorded →
      Conformance.isFamilyName d.propertyName = d.isWildcard) ∧
    (∀ (c : Conversion) (supported : Declaration → OperationSet) (ds : List Declaration)
      (d : Declaration) (ops : OperationSet), (∀ e ∈ ds, e.IsRecorded) → d.IsRecorded →
      let f := (Fragment.empty c.adminType).insertAll (ds.map fun e => c.placement e (supported e))
      (f.insert (c.placement d ops)).2.IsTaken ↔ ∃ e ∈ ds, e.name = d.name) := by
  have hsmall : ∀ {name : List Char}, (∀ c ∈ name, KeyMap.isDeclaredChar c = true) →
      ∀ c ∈ name, c.isUpper = false := fun h c hc => KeyMap.isUpper_of_isDeclaredChar (h c hc)
  refine ⟨fun name other hname hother => patternName_inj (hsmall hname) (hsmall hother),
    fun name hname => ⟨patternName_eq_self_iff (hsmall hname),
      isFamilyName_patternName (hsmall hname)⟩,
    fun d hd => hd.isFamilyName_propertyName, ?_⟩
  intro c supported ds d ops hds hd f
  have hnames : ∀ e ∈ ds, (c.placement e (supported e)).name = (c.placement d ops).name ↔
      e.name = d.name := fun e he => (hds e he).propertyName_eq_iff hd
  rw [isTaken_insert_iff]
  constructor
  · intro h
    obtain ⟨q, hq, hname⟩ := h
    obtain ⟨e, he, rfl⟩ := List.mem_map.mp hq
    exact ⟨e, he, (hnames e he).mp hname⟩
  · intro h
    obtain ⟨e, he, hname⟩ := h
    exact ⟨_, List.mem_map.mpr ⟨e, he, rfl⟩, (hnames e he).mpr hname⟩

theorem listed_names_identify_audit :
    let text := "\x7b\"base:audit*\", \"audit\",
        TRAIT_TYPE_UINT, \x7btrue, false, false, false\x7d\x7d,
      \x7b\"base:audit*\", \"flags\",
        TRAIT_TYPE_UINT, \x7btrue, false, false, true\x7d\x7d,"
    let d : Declaration := ⟨"base", "base:audit*", "audit", ⟨"UINT"⟩, ⟨true, false, false, false⟩⟩
    let e : Declaration := ⟨"base", "base:audit*", "flags", ⟨"UINT"⟩, ⟨true, false, false, true⟩⟩
    let c : Conversion := ⟨.lenient, ⟨"user"⟩, .ofRows []⟩
    let f := (Fragment.empty c.adminType).insertAll [c.placement d .extractOnly]
    KeyMap.records "BASE" text.toList = [d, e] ∧
      Conformance.isFamilyName d.propertyName = true ∧
      (f.insert (c.placement e .extractOnly)).2.IsTaken := by
  intro text d e c f
  have hrecords : KeyMap.records "BASE" text.toList = [d, e] := by decide +kernel
  have hd : d.IsRecorded := ⟨"BASE", text.toList, by simp [hrecords]⟩
  have he : e.IsRecorded := ⟨"BASE", text.toList, by simp [hrecords]⟩
  obtain ⟨-, -, hfamily, htaken⟩ := listed_names_identify
  have hw : d.isWildcard = true := by simp [d, Declaration.isWildcard, wildcard]
  refine ⟨hrecords, (hfamily d hd).trans hw, ?_⟩
  apply (htaken c (fun _ => .extractOnly) [d] e .extractOnly ?_ he).mpr
  · exact ⟨d, List.mem_singleton_self d, rfl⟩
  · simpa using hd

end TraitSchema
