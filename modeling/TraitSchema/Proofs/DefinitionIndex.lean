import TraitSchema.Proofs.DefinedEntries
import TraitSchema.Proofs.EmittedDefinitions
import TraitSchema.Proofs.ListSteps

namespace TraitSchema.Conformance

/-- The definitions of traits of a schema, as they are found when the buckets are tried in the order
of the list. -/
def traitDefinitionsBy (buckets : List Bucket) (doc : Json) : List TraitDefinition :=
  ((allDefinitions? doc).getD []).filterMap fun (name, body) =>
    buckets.findSome? fun bucket =>
      (TraitDefinition.split? name bucket).map fun owner => ⟨name, owner, bucket, body⟩

theorem traitDefinitionsBy_eq {buckets : List Bucket} (h : buckets.Perm Bucket.all) (doc : Json) :
    traitDefinitionsBy buckets doc = traitDefinitions doc := by
  refine List.filterMap_congr fun pair _ => ?_
  refine findSome?_eq_of_mem_iff (fun b _ c _ d e hd he => ?_) fun b => h.mem_iff
  obtain ⟨owner, hb, -⟩ := Option.map_eq_some_iff.mp hd
  obtain ⟨owner', hc, -⟩ := Option.map_eq_some_iff.mp he
  exact (TraitDefinition.split?_unique hb hc).1

/-- The name of a definition ends for no other bucket and after no other owner. -/
theorem Defines.owner_and_bucket {doc : Json} {d : TraitDefinition} (h : Defines doc d)
    {owner ending : String} {b : Bucket} (hb : (b, ending) ∈ bucketEndings)
    (hname : d.name = owner ++ ending) : owner = d.owner ∧ b = d.bucket := by
  obtain ⟨-, -, -, -, ending', hb', hname'⟩ := h
  exact (Bucket.suffix?_unique (mem_bucketEndings.mp hb) (mem_bucketEndings.mp hb')
    (hname.symm.trans hname')).symm

theorem defines_document_iff {a : Aggregate} {d : TraitDefinition} :
    Defines a.document d ↔ (d.name, d.body) ∈ a.definitions ∧ d.owner ≠ "" ∧
      ∃ ending, (d.bucket, ending) ∈ bucketEndings ∧ d.name = d.owner ++ ending := by
  have hget : a.document.get? "$defs" = some (.object a.definitions) := rfl
  rw [Defines, hget]
  simp only [Option.some.injEq, Json.object.injEq, exists_eq_left']

section Fragments

variable {fragments : List Fragment} {f : Fragment} {b : Bucket} {name : String}

theorem exists_defines_of_emits (hf : f ∈ fragments) (hnamed : f.adminType.camelName ≠ "")
    (he : f.Emits b name) :
    ∃ d, Defines (Aggregate.ofFragments fragments).document d ∧ d.name = name := by
  have hmem := Aggregate.mem_names_definitions.mpr ⟨f, hf, b, he⟩
  obtain ⟨⟨_, body⟩, hbody, rfl⟩ := List.mem_map.mp hmem
  obtain ⟨ending, hb, hname, -⟩ := he
  refine ⟨⟨_, f.adminType.camelName, b, body⟩, defines_document_iff.mpr ⟨hbody, hnamed, ?_⟩, rfl⟩
  exact ⟨ending, mem_bucketEndings.mpr hb, hname⟩

theorem owner_of_emits {doc : Json} {d : TraitDefinition} (hd : Defines doc d)
    (he : f.Emits b d.name) : d.owner = f.adminType.camelName ∧ d.bucket = b := by
  obtain ⟨ending, hb, hname, -⟩ := he
  obtain ⟨howner, hbucket⟩ := hd.owner_and_bucket (mem_bucketEndings.mpr hb) hname
  exact ⟨howner.symm, hbucket.symm⟩

theorem exists_emits_of_defines {d : TraitDefinition}
    (hd : Defines (Aggregate.ofFragments fragments).document d) :
    ∃ f ∈ fragments, f.Emits d.bucket d.name ∧ d.owner = f.adminType.camelName := by
  have hmem : d.name ∈ (Aggregate.ofFragments fragments).definitions.names :=
    List.mem_map.mpr ⟨_, (defines_document_iff.mp hd).1, rfl⟩
  obtain ⟨f, hf, b, he⟩ := Aggregate.mem_names_definitions.mp hmem
  obtain ⟨howner, rfl⟩ := owner_of_emits hd he
  exact ⟨f, hf, he, howner⟩

end Fragments

/-- The index lists the definitions of traits of a schema in the order of their names, and nothing
else. The name of each can be taken apart into an owner and the end for a bucket in one way, and so
the order in which the buckets are tried does not matter. From the definitions of fragments it gives
back the owner and the bucket for which each of them was named, even where an owner ends like the
name of a definition. -/
theorem index_inverts_naming {doc : Json} (h : doc.Ordered) {fragments : List Fragment}
    (hnamed : ∀ f ∈ fragments, f.adminType.camelName ≠ "") :
    (traitDefinitions doc).Pairwise (fun d e => d.name < e.name) ∧
    (∀ d, d ∈ traitDefinitions doc ↔ Defines doc d) ∧
    (∀ d, Defines doc d → ∀ owner b ending, (b, ending) ∈ bucketEndings →
      d.name = owner ++ ending → owner = d.owner ∧ b = d.bucket) ∧
    (∀ buckets : List Bucket, buckets.Perm Bucket.all →
      traitDefinitionsBy buckets doc = traitDefinitions doc) ∧
    let index := traitDefinitions (Aggregate.ofFragments fragments).document
    (∀ f ∈ fragments, ∀ b name, f.Emits b name →
      (∃ d ∈ index, d.name = name) ∧
        ∀ d ∈ index, d.name = name → d.owner = f.adminType.camelName ∧ d.bucket = b) ∧
    ∀ d ∈ index, ∃ f ∈ fragments, f.Emits d.bucket d.name ∧ d.owner = f.adminType.camelName := by
  refine ⟨sorted_traitDefinitions h, fun d => mem_traitDefinitions,
    fun d hd owner b ending hb hname => hd.owner_and_bucket hb hname,
    fun buckets hperm => traitDefinitionsBy_eq hperm doc, ?_, ?_⟩
  · intro f hf b name he
    obtain ⟨d, hd, hname⟩ := exists_defines_of_emits hf (hnamed f hf) he
    refine ⟨⟨d, mem_traitDefinitions.mpr hd, hname⟩, ?_⟩
    rintro e hmem rfl
    exact owner_of_emits (mem_traitDefinitions.mp hmem) he
  · intro d hd
    exact exists_emits_of_defines (mem_traitDefinitions.mp hd)

def ownerlessSchema : Json :=
  .object [("$defs", .object [("AddOnlyTraits", .object []), ("ownerAddOnlyTraits", .object [])])]

def namedFragment : Fragment where
  adminType := ⟨"user"⟩
  placements := [⟨"base:owner", .common, ⟨"owner", some .string, false, some "string"⟩⟩]
  names_nodup := by simp

/-- A fragment whose admin type ends like the name of a definition. -/
def endedFragment : Fragment where
  adminType := ⟨"user_common_traits"⟩
  placements := [⟨"base:date", .addOnly, ⟨"date", some .string, false, some "string"⟩⟩]
  names_nodup := by simp

theorem index_inverts_naming_ended :
    (¬ ∃ d ∈ traitDefinitions ownerlessSchema, d.name = "AddOnlyTraits") ∧
      (∃ d ∈ traitDefinitions ownerlessSchema, d.owner = "owner" ∧ d.bucket = .addOnly) ∧
      let index := traitDefinitions (Aggregate.ofFragments [namedFragment, endedFragment]).document
      (∃ d ∈ index, d.name = "userCommonTraitsAddOnlyTraits") ∧
        (∀ d ∈ index, d.name = "userCommonTraitsAddOnlyTraits" →
          d.owner = "userCommonTraits" ∧ d.bucket = .addOnly) ∧
        ∀ d ∈ index, d.name = "userCommonTraits" → d.owner = "user" ∧ d.bucket = .common := by
  have hordered : ownerlessSchema.Ordered := by decide
  have hnamed : ∀ f ∈ [namedFragment, endedFragment], f.adminType.camelName ≠ "" := by decide
  obtain ⟨-, hmem, hunique, -, hindex, -⟩ := index_inverts_naming hordered hnamed
  have hended : endedFragment.Emits .addOnly "userCommonTraitsAddOnlyTraits" :=
    ⟨_, rfl, by decide, .inl (Fragment.bucket_ne_nil ⟨_, List.mem_singleton_self _, rfl⟩)⟩
  have hcommon : namedFragment.Emits .common "userCommonTraits" :=
    ⟨_, rfl, by decide, .inl (Fragment.bucket_ne_nil ⟨_, List.mem_singleton_self _, rfl⟩)⟩
  obtain ⟨hfound, howner⟩ := hindex endedFragment (by simp) _ _ hended
  obtain ⟨-, howner'⟩ := hindex namedFragment (by simp) _ _ hcommon
  refine ⟨?_, ⟨⟨"ownerAddOnlyTraits", "owner", .addOnly, .object []⟩, (hmem _).mpr ?_, rfl, rfl⟩,
    hfound, howner, howner'⟩
  · rintro ⟨d, hd, hname⟩
    have hdefines := (hmem d).mp hd
    have hempty : d.name = "" ++ "AddOnlyTraits" := hname
    have hlead := (hunique d hdefines "" .addOnly _ (by decide) hempty).1
    obtain ⟨-, -, -, howned, -⟩ := hdefines
    exact howned hlead.symm
  · exact ⟨_, rfl, by simp, by decide, "AddOnlyTraits", by decide, rfl⟩

end TraitSchema.Conformance
