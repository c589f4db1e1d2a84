import TraitSchema.Proofs.ConvertedFragments
import TraitSchema.Proofs.DefinitionBodies
import TraitSchema.Proofs.Listings

namespace TraitSchema.Conformance

/-- The definitions of traits are those of the fragments, in some order. -/
def DefinedBy (doc : Json) (fragments : List Fragment) : Prop :=
  (traitDefinitions doc).Perm (fragments.flatMap fun f => f.definedBuckets.map f.traitDefinition)

section Checks

variable {doc : Json} {fragments : List Fragment}

theorem DefinedBy.mem_iff (h : DefinedBy doc fragments) {d : TraitDefinition} :
    d ∈ traitDefinitions doc ↔
      ∃ f ∈ fragments, ∃ b ∈ f.definedBuckets, f.traitDefinition b = d := by
  rw [List.Perm.mem_iff h]
  simp only [List.mem_flatMap, List.mem_map]

theorem DefinedBy.isEmpty_iff (h : DefinedBy doc fragments) :
    traitDefinitions doc = [] ↔ ∀ f ∈ fragments, f.placements = [] := by
  rw [← List.perm_nil, List.Perm.congr_left h, List.perm_nil, List.flatMap_eq_nil_iff]
  simp only [List.map_eq_nil_iff, Fragment.definedBuckets_eq_nil_iff]

theorem keys_listingsOf (fragments : List Fragment) :
    (listingsOf (fragments.flatMap fun f => f.definedBuckets.map f.traitDefinition)).map
        (fun l => (l.owner, l.trait)) =
      fragments.flatMap fun f =>
        (f.definedBuckets.flatMap fun b => (f.bucket b).names).map (f.adminType.camelName, ·) := by
  simp only [listingsOf, List.flatMap_assoc, List.map_flatMap, List.flatMap_map,
    Fragment.properties?_traitDefinition, Option.getD_some, Table.mapValues, Table.names,
    List.map_map]
  rfl

theorem DefinedBy.overlaps_eq_nil (h : DefinedBy doc fragments)
    (hdistinct : (fragments.map (·.adminType.camelName)).Nodup) : overlaps doc = [] := by
  apply Conformance.overlaps_eq_nil
  refine ((perm_listingsOf h).map _).nodup_iff.mpr ?_
  rw [keys_listingsOf, List.nodup_flatMap]
  constructor
  · intro f _
    refine List.Nodup.map (Prod.mk_right_injective _) (List.nodup_flatMap.mpr ⟨?_, ?_⟩)
    · exact fun b _ => Table.names_nodup (f.sorted_bucket b)
    · exact f.definedBuckets_nodup.imp Fragment.disjoint_buckets
  · refine (List.pairwise_map.mp hdistinct).imp ?_
    intro f g hne key hf hg
    obtain ⟨_, -, rfl⟩ := List.mem_map.mp hf
    obtain ⟨_, -, he⟩ := List.mem_map.mp hg
    exact hne (Prod.mk.inj he).1.symm

theorem DefinedBy.leakedCodes_eq_nil (h : DefinedBy doc fragments) : leakedCodes doc = [] := by
  apply List.flatMap_eq_nil_iff.mpr
  intro d hd
  obtain ⟨f, -, b, -, rfl⟩ := h.mem_iff.mp hd
  rw [List.map_eq_nil_iff, List.filter_eq_nil_iff, Fragment.properties?_traitDefinition,
    Option.getD_some]
  rintro ⟨trait, entry⟩ hm
  obtain ⟨value, -, rfl⟩ := Table.mem_mapValues.mp hm
  simp [TraitEntry.get?_codeKey]

theorem DefinedBy.misplacedFamilies_eq_nil (h : DefinedBy doc fragments)
    (hconverted : ∀ f ∈ fragments, f.IsConverted) : misplacedFamilies doc = [] := by
  apply List.flatMap_eq_nil_iff.mpr
  intro d hd
  obtain ⟨hd, hv⟩ := List.mem_filter.mp hd
  obtain ⟨f, hf, b, hb, rfl⟩ := h.mem_iff.mp hd
  rw [List.map_eq_nil_iff, List.filter_eq_nil_iff, Fragment.properties?_traitDefinition,
    Option.getD_some]
  rintro ⟨trait, entry⟩ hm
  obtain ⟨value, hp, -⟩ := Table.mem_mapValues.mp hm
  have he : b ≠ .extractOnly := by
    simpa [TraitDefinition.isValidated, Fragment.traitDefinition] using hv
  have hname := (hconverted f hf).isFamilyName_eq_false (Fragment.mem_bucket.mp hp) he
    (Fragment.mem_definedBuckets.mp hb).1
  simp [hname]

theorem DefinedBy.openDefinitions_eq_nil (h : DefinedBy doc fragments) :
    openDefinitions (traitDefinitions doc) = [] := by
  rw [openDefinitions, List.map_eq_nil_iff, List.filter_eq_nil_iff]
  intro d hd
  obtain ⟨f, -, b, -, rfl⟩ := h.mem_iff.mp hd
  have hc := f.get?_closureKey b
  by_cases he : b = .extractOnly
  · simp [TraitDefinition.isValidated, Fragment.traitDefinition, he]
  · rw [if_neg he] at hc
    have hbody : (f.traitDefinition b).body.get? closureKey = some (.bool false) := hc
    have hsame : (some (Json.bool false) != some (Json.bool false)) = false := rfl
    simp [hbody, hsame]

theorem DefinedBy.restrictedDefinitions_eq_nil (h : DefinedBy doc fragments) :
    restrictedDefinitions (traitDefinitions doc) = [] := by
  rw [restrictedDefinitions, List.map_eq_nil_iff, List.filter_eq_nil_iff]
  intro d hd
  obtain ⟨f, -, b, -, rfl⟩ := h.mem_iff.mp hd
  have hc := f.get?_closureKey b
  by_cases he : b = .extractOnly
  · rw [if_pos he] at hc
    have hbody : (f.traitDefinition b).body.get? closureKey = none := hc
    simp [hbody]
  · simp [TraitDefinition.isValidated, Fragment.traitDefinition, he]

/-- Only the size of a family's pattern can make it invalid. -/
theorem DefinedBy.invalidPatterns_ne_nil_iff (h : DefinedBy doc fragments)
    (hconverted : ∀ f ∈ fragments, f.IsConverted) :
    invalidPatterns doc ≠ [] ↔ ∃ f ∈ fragments, ∃ p ∈ f.placements, p.bucket = .pattern ∧
      Pattern.fault? p.name = some (.tooLarge Pattern.sizeLimit) := by
  constructor
  · intro hne
    obtain ⟨line, hline⟩ := List.exists_mem_of_ne_nil _ hne
    obtain ⟨d, hd, hline⟩ := List.mem_flatMap.mp hline
    obtain ⟨f, hf, b, -, rfl⟩ := h.mem_iff.mp hd
    obtain ⟨⟨name, value⟩, hm, hfault⟩ := List.mem_filterMap.mp hline
    obtain ⟨fault, hfault, -⟩ := Option.map_eq_some_iff.mp hfault
    rw [Fragment.patterns?_traitDefinition] at hm
    split at hm
    next =>
      rw [Option.getD_some] at hm
      obtain ⟨entry, hp, -⟩ := Table.mem_mapValues.mp hm
      have hp := Fragment.mem_bucket.mp hp
      refine ⟨f, hf, _, hp, rfl, ?_⟩
      rcases (hconverted f hf).fault?_name hp with hnone | hlarge
      · cases hnone.symm.trans hfault
      · exact hlarge
    next => cases hm
  · rintro ⟨f, hf, p, hp, hb, hfault⟩
    -- families are listed by the definition of the common traits, even if there are no such traits
    have hpatterns := Fragment.hasPatterns_eq_true_iff.mpr ⟨p, hp, hb⟩
    have hd := h.mem_iff.mpr ⟨f, hf, .common, Fragment.common_mem_definedBuckets hpatterns, rfl⟩
    have hm : (p.name, p.entry.toJson true) ∈
        ((f.traitDefinition .common).patterns?.getD []) := by
      rw [Fragment.patterns?_traitDefinition, if_pos ⟨by decide, hpatterns⟩, Option.getD_some]
      exact Table.mem_mapValues.mpr ⟨p.entry, Fragment.mem_bucket.mpr (hb ▸ hp), rfl⟩
    intro hnil
    have hnone := List.filterMap_eq_nil_iff.mp (List.flatMap_eq_nil_iff.mp hnil _ hd) _ hm
    simp [hfault] at hnone

theorem resolves_reference (available : Table Json) (type : Option SharedType) :
    resolves available (SharedType.reference type) = type.any fun t => available.holds t.name := by
  cases type with
  | none => rfl
  | some t =>
    have ha : Text.after? SharedType.localStart.toList
        (SharedType.reference (some t)).toList = some t.name.toList := by
      rw [SharedType.reference, String.toList_append, Text.after?_append]
    rw [resolves, ha]
    simp only [String.ofList_toList, Option.any_some]

theorem danglingEntries_ne_nil_iff (available : Table Json) (name : String)
    (entries : Table TraitEntry) (withCode : Bool) :
    danglingEntries available name (entries.mapValues fun entry => entry.toJson withCode) ≠ [] ↔
      ∃ pair ∈ entries, pair.2.type.any (fun t => available.holds t.name) = false := by
  rw [danglingEntries, Table.mapValues, List.filterMap_map, ne_eq, List.filterMap_eq_nil_iff]
  simp [TraitEntry.get?_ref, Json.text?, resolves_reference]

theorem DefinedBy.danglingReferences_ne_nil_iff (h : DefinedBy doc fragments) :
    danglingReferences doc ≠ [] ↔ ∃ f ∈ fragments, ∃ p ∈ f.placements,
      p.entry.type.any (fun t => ((allDefinitions? doc).getD []).holds t.name) = false := by
  constructor
  · intro hne
    obtain ⟨line, hline⟩ := List.exists_mem_of_ne_nil _ hne
    obtain ⟨d, hd, hline⟩ := List.mem_flatMap.mp hline
    obtain ⟨f, hf, b, -, rfl⟩ := h.mem_iff.mp hd
    rw [Fragment.properties?_traitDefinition, Fragment.patterns?_traitDefinition] at hline
    rcases List.mem_append.mp hline with hline | hline
    · obtain ⟨⟨name, entry⟩, hm, hdangling⟩ :=
        (danglingEntries_ne_nil_iff _ _ _ _).mp (List.ne_nil_of_mem hline)
      exact ⟨f, hf, _, Fragment.mem_bucket.mp hm, hdangling⟩
    · split at hline
      next =>
        obtain ⟨⟨name, entry⟩, hm, hdangling⟩ :=
          (danglingEntries_ne_nil_iff _ _ _ _).mp (List.ne_nil_of_mem hline)
        exact ⟨f, hf, _, Fragment.mem_bucket.mp hm, hdangling⟩
      next => cases hline
  · rintro ⟨f, hf, p, hp, hdangling⟩ hnil
    have hentry {b : Bucket} (hb : b ∈ f.definedBuckets) :=
      List.append_eq_nil_iff.mp (List.flatMap_eq_nil_iff.mp hnil (f.traitDefinition b)
        (h.mem_iff.mpr ⟨f, hf, b, hb, rfl⟩))
    have hm : (p.name, p.entry) ∈ f.bucket p.bucket := Fragment.mem_bucket.mpr hp
    by_cases hb : p.bucket = .pattern
    · have hpatterns := Fragment.hasPatterns_eq_true_iff.mpr ⟨p, hp, hb⟩
      have hfound := (hentry (Fragment.common_mem_definedBuckets hpatterns)).2
      rw [Fragment.patterns?_traitDefinition, if_pos ⟨by decide, hpatterns⟩] at hfound
      exact (danglingEntries_ne_nil_iff _ _ _ _).mpr ⟨_, hb ▸ hm, hdangling⟩ hfound
    · have hfound := (hentry (Fragment.bucket_mem_definedBuckets hp hb)).1
      rw [Fragment.properties?_traitDefinition] at hfound
      exact (danglingEntries_ne_nil_iff _ _ _ _).mpr ⟨_, hm, hdangling⟩ hfound

end Checks

end TraitSchema.Conformance
