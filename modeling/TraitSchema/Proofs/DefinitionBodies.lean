import TraitSchema.Conformance.Checks
import TraitSchema.Proofs.FirstPlacement
import TraitSchema.Proofs.UnitedDefinitions

namespace TraitSchema

theorem Json.get?_ofMembers (members : List (String × Json)) (key : String) :
    (Json.ofMembers members).get? key = Table.get? members.reverse key :=
  Table.get?_ofList members key

namespace TraitEntry

theorem get?_ref (entry : TraitEntry) (withCode : Bool) :
    (entry.toJson withCode).get? "$ref" = some (.string (SharedType.reference entry.type)) := by
  rw [toJson, Json.get?_ofMembers]
  cases entry.pseudoBoolean <;> cases entry.code <;> cases withCode <;> rfl

theorem get?_codeKey (entry : TraitEntry) : (entry.toJson false).get? codeKey = none := by
  rw [toJson, Json.get?_ofMembers]
  cases entry.pseudoBoolean <;> cases entry.code <;> rfl

end TraitEntry

namespace Fragment

variable {f : Fragment} {b : Bucket}

theorem sorted_bucket (f : Fragment) (b : Bucket) : (f.bucket b).Sorted := Table.sorted_ofList _

theorem mem_bucket {name : String} {entry : TraitEntry} :
    (name, entry) ∈ f.bucket b ↔ ⟨name, b, entry⟩ ∈ f.placements := by
  rw [← Table.get?_eq_some_iff (Table.names_nodup (f.sorted_bucket b)), get?_bucket]
  simp only [Option.map_eq_some_iff, Option.filter_eq_some_iff, decide_eq_true_eq]
  constructor
  · rintro ⟨p, ⟨hp, rfl⟩, rfl⟩
    rw [← name_of_find? hp]
    exact List.mem_of_find?_eq_some hp
  · intro h
    exact ⟨_, ⟨find?_of_mem h, rfl⟩, rfl⟩

theorem bucket_ne_nil (h : ∃ p ∈ f.placements, p.bucket = b) : f.bucket b ≠ [] := by
  obtain ⟨p, hp, rfl⟩ := h
  exact List.ne_nil_of_mem (mem_bucket.mpr hp)

theorem hasPatterns_eq_true_iff :
    f.hasPatterns = true ↔ ∃ p ∈ f.placements, p.bucket = .pattern := by
  simp only [hasPatterns, Bool.not_eq_true', List.isEmpty_eq_false_iff]
  refine ⟨fun h => ?_, bucket_ne_nil⟩
  obtain ⟨⟨name, entry⟩, hm⟩ := List.exists_mem_of_ne_nil _ h
  exact ⟨_, mem_bucket.mp hm, rfl⟩

theorem mem_definedBuckets :
    b ∈ f.definedBuckets ↔
      b ≠ .pattern ∧ (f.bucket b ≠ [] ∨ b = .common ∧ f.hasPatterns = true) := by
  rw [definedBuckets, List.mem_filter]
  have hb : b ∈ [Bucket.addOnly, .alterOnly, .common, .extractOnly] ↔ b ≠ .pattern := by
    cases b <;> decide
  simp [hb]

theorem bucket_mem_definedBuckets {p : Placement} (hp : p ∈ f.placements)
    (hb : p.bucket ≠ .pattern) : p.bucket ∈ f.definedBuckets :=
  mem_definedBuckets.mpr ⟨hb, .inl (bucket_ne_nil ⟨p, hp, rfl⟩)⟩

theorem common_mem_definedBuckets (h : f.hasPatterns = true) : .common ∈ f.definedBuckets :=
  mem_definedBuckets.mpr ⟨by decide, .inr ⟨rfl, h⟩⟩

/-- A fragment has definitions unless it has no traits. -/
theorem definedBuckets_eq_nil_iff : f.definedBuckets = [] ↔ f.placements = [] := by
  simp only [List.eq_nil_iff_forall_not_mem]
  constructor
  · intro h p hp
    by_cases hb : p.bucket = .pattern
    · exact h _ (common_mem_definedBuckets (hasPatterns_eq_true_iff.mpr ⟨p, hp, hb⟩))
    · exact h _ (bucket_mem_definedBuckets hp hb)
  · intro h b hb
    rcases (mem_definedBuckets.mp hb).2 with hne | ⟨-, hpatterns⟩
    · obtain ⟨⟨name, entry⟩, hm⟩ := List.exists_mem_of_ne_nil _ hne
      exact h _ (mem_bucket.mp hm)
    · obtain ⟨p, hp, -⟩ := hasPatterns_eq_true_iff.mp hpatterns
      exact h p hp

/-- No trait is in two buckets. -/
theorem disjoint_buckets {c : Bucket} (hbc : b ≠ c) :
    List.Disjoint (f.bucket b).names (f.bucket c).names := by
  intro name hb hc
  obtain ⟨⟨trait, entry⟩, hfirst, rfl⟩ := List.mem_map.mp hb
  obtain ⟨⟨_, entry'⟩, hsecond, he⟩ := List.mem_map.mp hc
  cases he
  have hfirst := find?_of_mem (mem_bucket.mp hfirst)
  have hsecond := find?_of_mem (mem_bucket.mp hsecond)
  exact hbc (congrArg Placement.bucket (Option.some.inj (hfirst.symm.trans hsecond)))

theorem get?_listing (f : Fragment) (b : Bucket) (withCode : Bool) (name : String) :
    (f.listing b withCode).get? name =
      ((f.bucket b).get? name).map fun entry => entry.toJson withCode :=
  Table.get?_mapValues _ _ name

theorem get?_properties (f : Fragment) (b : Bucket) :
    (f.body b).get? "properties" = some (f.listing b false) := by
  by_cases hb : b = .extractOnly
  · rw [body, if_pos hb, openBody, Json.get?_ofMembers, hb]
    rfl
  · rw [body, if_neg hb, closedBody, Json.get?_ofMembers]
    cases f.hasPatterns <;> rfl

theorem get?_patternProperties (f : Fragment) (b : Bucket) :
    (f.body b).get? "patternProperties" =
      if b ≠ .extractOnly ∧ f.hasPatterns = true then some (f.listing .pattern true)
      else none := by
  by_cases hb : b = .extractOnly
  · rw [body, if_pos hb, openBody, Json.get?_ofMembers, hb]
    rfl
  · rw [body, if_neg hb, closedBody, Json.get?_ofMembers]
    cases f.hasPatterns <;> simp [hb] <;> rfl

theorem get?_closureKey (f : Fragment) (b : Bucket) :
    (f.body b).get? Conformance.closureKey =
      if b = .extractOnly then none else some (.bool false) := by
  by_cases hb : b = .extractOnly
  · rw [body, if_pos hb, openBody, Json.get?_ofMembers, if_pos hb]
    rfl
  · rw [body, if_neg hb, closedBody, Json.get?_ofMembers, if_neg hb]
    cases f.hasPatterns <;> rfl

theorem properties?_traitDefinition (f : Fragment) (b : Bucket) :
    (f.traitDefinition b).properties? =
      some ((f.bucket b).mapValues fun entry => entry.toJson false) := by
  rw [Conformance.TraitDefinition.properties?, traitDefinition, get?_properties]
  rfl

theorem patterns?_traitDefinition (f : Fragment) (b : Bucket) :
    (f.traitDefinition b).patterns? =
      if b ≠ .extractOnly ∧ f.hasPatterns = true then
        some ((f.bucket .pattern).mapValues fun entry => entry.toJson true)
      else none := by
  rw [Conformance.TraitDefinition.patterns?, traitDefinition, get?_patternProperties]
  split <;> rfl

end Fragment

end TraitSchema
