import TraitSchema.Proofs.FragmentChecks

namespace TraitSchema.Conformance

namespace CheckResult

theorem isFailure_expectNone (check passed failed : String) (offenders : List String) :
    (expectNone check passed failed offenders).isFailure = true ↔ offenders ≠ [] := by
  cases offenders <;> simp [expectNone, pass, fail, isFailure]

theorem severity_expectNone (check passed failed : String) (offenders : List String) :
    (expectNone check passed failed offenders).severity ≠ .warning := by
  cases offenders <;> simp [expectNone, pass, fail]

theorem check_expectNone (check passed failed : String) (offenders : List String) :
    (expectNone check passed failed offenders).check = check := by
  cases offenders <;> rfl

end CheckResult

theorem results_validate (doc : Json) :
    (validate doc).results = (checkPartition doc).results ++ (checkCodes doc).results ++
      (checkWildcards doc).results ++ (checkClosure doc).results ++
      (checkReferences doc).results := by
  simp [validate, checks, Report.append, Report.empty]

section Reports

variable {doc : Json} {fragments : List Fragment}

theorem DefinedBy.results_checkPartition (h : DefinedBy doc fragments)
    (hdistinct : (fragments.map (·.adminType.camelName)).Nodup) :
    ∀ r ∈ (checkPartition doc).results, r.severity = .pass := by
  simp [checkPartition, h.overlaps_eq_nil hdistinct, CheckResult.expectNone, CheckResult.pass]

theorem DefinedBy.results_checkCodes (h : DefinedBy doc fragments) :
    ∀ r ∈ (checkCodes doc).results, r.severity = .pass := by
  simp [checkCodes, h.leakedCodes_eq_nil, CheckResult.expectNone, CheckResult.pass]

theorem DefinedBy.results_checkWildcards (h : DefinedBy doc fragments)
    (hconverted : ∀ f ∈ fragments, f.IsConverted) :
    ∀ r ∈ (checkWildcards doc).results, r.severity = .pass ∨
      r.check = "schema/wildcard" ∧ r.severity = .failure ∧ invalidPatterns doc ≠ [] := by
  simp only [checkWildcards, h.misplacedFamilies_eq_nil hconverted, List.forall_mem_cons]
  refine ⟨.inl rfl, ?_, fun r hr => nomatch hr⟩
  cases invalidPatterns doc with
  | nil => exact .inl rfl
  | cons line lines => exact .inr ⟨rfl, rfl, List.cons_ne_nil line lines⟩

theorem DefinedBy.results_checkClosure (h : DefinedBy doc fragments) :
    (checkClosure doc).results =
      if traitDefinitions doc = [] then
        [.warn "schema/closure" "No generated trait definitions found" []]
      else
        [.pass "schema/closure" "All request categories set additionalProperties: false",
          .pass "schema/closure"
            "Extract-only definitions carry no additionalProperties restriction"] := by
  simp only [checkClosure, h.openDefinitions_eq_nil, h.restrictedDefinitions_eq_nil,
    List.isEmpty_iff]
  split <;> rfl

/-- The ways in which a result comes about. -/
theorem DefinedBy.result_cases (h : DefinedBy doc fragments)
    (hconverted : ∀ f ∈ fragments, f.IsConverted)
    (hdistinct : (fragments.map (·.adminType.camelName)).Nodup) {r : CheckResult}
    (hr : r ∈ (validate doc).results) :
    r.severity = .pass ∨
      (r.check = "schema/wildcard" ∧ r.severity = .failure ∧ invalidPatterns doc ≠ []) ∨
      (r.severity = .warning ∧ traitDefinitions doc = []) ∨
      r ∈ (checkReferences doc).results := by
  simp only [results_validate, List.mem_append] at hr
  rcases hr with (((hr | hr) | hr) | hr) | hr
  · exact .inl (h.results_checkPartition hdistinct r hr)
  · exact .inl (h.results_checkCodes r hr)
  · exact (h.results_checkWildcards hconverted r hr).imp_right .inl
  · rw [h.results_checkClosure] at hr
    split at hr
    next hempty =>
      rw [List.mem_singleton.mp hr]
      exact .inr (.inr (.inl ⟨rfl, hempty⟩))
    next =>
      simp only [List.mem_cons, List.not_mem_nil, or_false] at hr
      rcases hr with rfl | rfl <;> exact .inl rfl
  · exact .inr (.inr (.inr hr))

theorem result_checkReferences {r : CheckResult} (hr : r ∈ (checkReferences doc).results) :
    r.check = "schema/refs" ∧ r.severity ≠ .warning ∧
      (r.isFailure = true ↔ danglingReferences doc ≠ []) := by
  cases List.mem_singleton.mp hr
  exact ⟨CheckResult.check_expectNone _ _ _ _, CheckResult.severity_expectNone _ _ _ _,
    CheckResult.isFailure_expectNone _ _ _ _⟩

theorem isFailure_iff {r : CheckResult} : r.isFailure = true ↔ r.severity = .failure := by
  simp [CheckResult.isFailure]

/-- Outside of references, only a pattern of too great a size makes a check fail. -/
theorem DefinedBy.failure_outside_references (h : DefinedBy doc fragments)
    (hconverted : ∀ f ∈ fragments, f.IsConverted)
    (hdistinct : (fragments.map (·.adminType.camelName)).Nodup) {r : CheckResult}
    (hr : r ∈ (validate doc).results) (hrefs : r.check ≠ "schema/refs")
    (hfail : r.isFailure = true) :
    r.check = "schema/wildcard" ∧ ∃ f ∈ fragments, ∃ p ∈ f.placements, p.bucket = .pattern ∧
      Pattern.fault? p.name = some (.tooLarge Pattern.sizeLimit) := by
  have hfail := isFailure_iff.mp hfail
  rcases h.result_cases hconverted hdistinct hr with hs | ⟨hc, -, hi⟩ | ⟨hs, -⟩ | hr
  · cases hs.symm.trans hfail
  · exact ⟨hc, (h.invalidPatterns_ne_nil_iff hconverted).mp hi⟩
  · cases hs.symm.trans hfail
  · exact absurd (result_checkReferences hr).1 hrefs

theorem DefinedBy.exists_warning_iff (h : DefinedBy doc fragments)
    (hconverted : ∀ f ∈ fragments, f.IsConverted)
    (hdistinct : (fragments.map (·.adminType.camelName)).Nodup) :
    (∃ r ∈ (validate doc).results, r.severity = .warning) ↔
      ∀ f ∈ fragments, f.placements = [] := by
  rw [← h.isEmpty_iff]
  constructor
  · rintro ⟨r, hr, hw⟩
    rcases h.result_cases hconverted hdistinct hr with hs | ⟨-, hs, -⟩ | ⟨-, hempty⟩ | hr
    · cases hs.symm.trans hw
    · cases hs.symm.trans hw
    · exact hempty
    · exact absurd hw (result_checkReferences hr).2.1
  · intro hempty
    refine ⟨.warn "schema/closure" "No generated trait definitions found" [], ?_, rfl⟩
    rw [results_validate, h.results_checkClosure, if_pos hempty]
    simp

theorem DefinedBy.exists_failure_references_iff (h : DefinedBy doc fragments)
    (hconverted : ∀ f ∈ fragments, f.IsConverted)
    (hdistinct : (fragments.map (·.adminType.camelName)).Nodup) :
    (∃ r ∈ (validate doc).results, r.check = "schema/refs" ∧ r.isFailure = true) ↔
      danglingReferences doc ≠ [] := by
  constructor
  · rintro ⟨r, hr, hc, hfail⟩
    have hs := isFailure_iff.mp hfail
    rcases h.result_cases hconverted hdistinct hr with hp | ⟨hw, -, -⟩ | ⟨hw, -⟩ | hr
    · cases hp.symm.trans hs
    · exact absurd (hw.symm.trans hc) (by decide)
    · cases hw.symm.trans hs
    · exact (result_checkReferences hr).2.2.mp hfail
  · intro hne
    obtain ⟨r, hr⟩ : ∃ r, r ∈ (checkReferences doc).results := ⟨_, List.mem_singleton_self _⟩
    refine ⟨r, ?_, (result_checkReferences hr).1, (result_checkReferences hr).2.2.mpr hne⟩
    rw [results_validate]
    exact List.mem_append_right _ hr

end Reports

theorem any_eq_false_iff {type : Option SharedType} {available : Table Json} :
    type.any (fun t => available.holds t.name) = false ↔
      type = none ∨ ∃ t, type = some t ∧ available.holds t.name = false := by
  cases type <;> simp

/-- A generated schema conforms. It fails only for references that the base schema does not
provide for, the size of patterns apart, and there is a warning only if there are no traits. -/
theorem validate_generated {base : Json} {fragments : List Fragment}
    (hbase : Generation.isBaseSchema base = true)
    (hplain : ∀ name ∈ ((allDefinitions? base).getD []).names, ¬ IsGeneratedName name)
    (hconverted : ∀ f ∈ fragments, f.IsConverted)
    (hne : ∀ f ∈ fragments, f.adminType.camelName ≠ "")
    (hdistinct : (fragments.map (·.adminType.camelName)).Nodup) :
    let report := validate (Json.uniteSchemas base (Aggregate.ofFragments fragments).document)
    (∀ r ∈ report.results, r.check ≠ "schema/refs" → r.isFailure = true →
      r.check = "schema/wildcard" ∧ ∃ f ∈ fragments, ∃ p ∈ f.placements, p.bucket = .pattern ∧
        Pattern.fault? p.name = some (.tooLarge Pattern.sizeLimit)) ∧
    ((∃ r ∈ report.results, r.severity = .warning) ↔ ∀ f ∈ fragments, f.placements = []) ∧
    ((∃ r ∈ report.results, r.check = "schema/refs" ∧ r.isFailure = true) ↔
      ∃ f ∈ fragments, ∃ p ∈ f.placements, p.entry.type = none ∨
        ∃ type, p.entry.type = some type ∧
          ((allDefinitions? base).getD []).holds type.name = false) := by
  intro report
  have h : DefinedBy (Json.uniteSchemas base (Aggregate.ofFragments fragments).document)
      fragments := perm_traitDefinitions hbase hplain hne hdistinct
  refine ⟨fun r => h.failure_outside_references hconverted hdistinct,
    h.exists_warning_iff hconverted hdistinct, ?_⟩
  rw [h.exists_failure_references_iff hconverted hdistinct, h.danglingReferences_ne_nil_iff]
  simp only [holds_sharedType hbase hplain hne hdistinct, any_eq_false_iff]

/-- A base schema that has definitions for booleans and numbers. -/
def smallBase : Json :=
  .object [(definitionsKey, .object [("traitTypeBoolean", .null), ("traitTypeSetOnlyUint", .null)])]

def smallKeyMap : List Char :=
  "USER_BASE_SEGMENT_MAP
  \x7b\"base:size*\", \"size\", TRAIT_TYPE_UINT, \x7btrue, false, false, false\x7d\x7d
  \x7b\"base:owner\", \"owner\",
    TRAIT_TYPE_STRING, \x7bfalse, false, false, false\x7d\x7d".toList

def smallConversion : Conversion :=
  ⟨.strict, ⟨"user"⟩, .ofRows [⟨"base", "size", ⟨false, true, true⟩⟩]⟩

def smallFragment : Fragment where
  adminType := ⟨"user"⟩
  placements := [
    ⟨"base:size[a-zA-Z0-9@#$]+$", .pattern,
      ⟨"size", some .setOnlyUint, false, some (operatorCode ⟨"UINT"⟩ ⟨true, false, false, false⟩)⟩⟩,
    ⟨"base:owner", .extractOnly, ⟨"owner", some .string, false, none⟩⟩]
  names_nodup := by simp

set_option maxRecDepth 2000 in
theorem smallFragment_isConverted : smallFragment.IsConverted :=
  ⟨smallConversion, smallKeyMap, 1, rfl⟩

theorem validate_generated_small :
    let report := validate
      (Json.uniteSchemas smallBase (Aggregate.ofFragments [smallFragment]).document)
    (∀ r ∈ report.results, r.check ≠ "schema/refs" → r.isFailure = false) ∧
      (¬ ∃ r ∈ report.results, r.severity = .warning) ∧
      ∃ r ∈ report.results, r.check = "schema/refs" ∧ r.isFailure = true := by
  have hplain : ∀ name ∈ ((allDefinitions? smallBase).getD []).names, ¬ IsGeneratedName name := by
    intro name hm
    have hm : name ∈ [SharedType.boolean.name, SharedType.setOnlyUint.name] := hm
    simp only [List.mem_cons, List.not_mem_nil, or_false] at hm
    rcases hm with rfl | rfl <;> exact SharedType.not_isGeneratedName _
  have hconverted : ∀ f ∈ [smallFragment], f.IsConverted := by
    intro f hf
    exact List.mem_singleton.mp hf ▸ smallFragment_isConverted
  obtain ⟨hfail, hwarn, hrefs⟩ := @validate_generated smallBase [smallFragment] rfl hplain
    hconverted (by decide) (by decide)
  have hvalid : Pattern.fault? "base:size[a-zA-Z0-9@#$]+$" = none := rfl
  refine ⟨?_, ?_, ?_⟩
  · intro r hr hc
    by_contra hne
    obtain ⟨-, f, hf, p, hp, hb, hlarge⟩ := hfail r hr hc (Bool.not_eq_false _ ▸ hne)
    rw [List.mem_singleton.mp hf] at hp
    rcases List.mem_cons.mp hp with rfl | hp
    · cases hvalid.symm.trans hlarge
    · cases List.mem_singleton.mp hp
      cases hb
  · intro hw
    exact absurd (hwarn.mp hw smallFragment List.mem_cons_self) (List.cons_ne_nil _ _)
  · refine hrefs.mpr ⟨smallFragment, List.mem_cons_self, _,
      List.mem_cons_of_mem _ List.mem_cons_self, .inr ⟨.string, rfl, ?_⟩⟩
    decide

end TraitSchema.Conformance
