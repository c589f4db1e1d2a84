import TraitSchema.Proofs.FamilyPatterns
import TraitSchema.Proofs.PropertyNames

namespace TraitSchema

/-- Only families and traits that are documented alone may be declared with a wildcard. -/
theorem Bucket.isWildcard_eq_false {d : Declaration} {ops : OperationSet}
    {policy : OperationPolicy} (he : ofSupport d ops policy ≠ .extractOnly)
    (hp : ofSupport d ops policy ≠ .pattern) : d.isWildcard = false := by
  unfold ofSupport at he hp
  split at he
  next => exact absurd rfl he
  next ho =>
    rw [if_neg ho] at hp
    split at hp
    next => exact absurd rfl hp
    next hw => simpa using hw

namespace Fragment

/-- The fragment came out of a conversion. -/
def IsConverted (f : Fragment) : Prop :=
  ∃ (c : Conversion) (source : List Char) (n : Nat), (c.run source).outcome = .ok (f, n)

variable {f : Fragment} {p : Placement}

/-- Each trait of the fragment stands where one of the declarations of the key map puts it. -/
theorem IsConverted.exists_declared (hf : f.IsConverted) :
    ∃ (c : Conversion) (source : List Char), c.adminType = f.adminType ∧
      ∀ p ∈ f.placements, ∃ d ∈ KeyMap.declared c.adminType source, p = c.placementOf d := by
  obtain ⟨c, source, n, h⟩ := hf
  have hplaced := (Conversion.run_ok h).1
  refine ⟨c, source, ?_, fun p hp => ?_⟩
  · rw [hplaced, adminType_insertAll]
    rfl
  · rw [hplaced] at hp
    rcases mem_insertAll hp with hp | hp
    · cases hp
    · obtain ⟨d, hd, he⟩ := List.mem_map.mp hp
      exact ⟨d, hd, he.symm⟩

theorem IsConverted.exists_declared_of_get? (hf : f.IsConverted) {b : Bucket} {name : String}
    {entry : TraitEntry} (h : (f.bucket b).get? name = some entry) :
    ∃ (c : Conversion) (source : List Char), c.adminType = f.adminType ∧
      ∃ d ∈ KeyMap.declared c.adminType source, b = c.bucketOf d ∧
        entry = .ofDeclaration d b := by
  obtain ⟨c, source, ht, hplaced⟩ := hf.exists_declared
  obtain ⟨d, hd, he⟩ := hplaced _ (mem_bucket.mp (Table.mem_of_get? h))
  obtain ⟨-, hb, hentry⟩ := Placement.mk.inj he
  refine ⟨c, source, ht, d, hd, hb, ?_⟩
  rw [hb]
  exact hentry

theorem IsConverted.exists_declaration (hf : f.IsConverted) (hp : p ∈ f.placements) :
    ∃ (c : Conversion) (d : Declaration),
      (∀ ch ∈ d.name.toList, KeyMap.isDeclaredChar ch = true) ∧ p = c.placementOf d := by
  obtain ⟨c, source, -, hplaced⟩ := hf.exists_declared
  obtain ⟨d, hd, he⟩ := hplaced p hp
  exact ⟨c, d, KeyMap.declared_chars hd, he⟩

theorem IsConverted.isFamilyName_eq_false (hf : f.IsConverted) (hp : p ∈ f.placements)
    (he : p.bucket ≠ .extractOnly) (hb : p.bucket ≠ .pattern) :
    Conformance.isFamilyName p.name = false := by
  obtain ⟨c, d, hd, rfl⟩ := hf.exists_declaration hp
  have hw : wildcard ∉ d.name.toList := by
    intro hm
    have hnot : d.isWildcard = false := Bucket.isWildcard_eq_false he hb
    simp [Declaration.isWildcard, hm] at hnot
  have hsmall : ∀ ch ∈ d.name.toList, ch.isUpper = false :=
    fun ch hch => KeyMap.isUpper_of_isDeclaredChar (hd ch hch)
  rw [← Bool.not_eq_true]
  exact fun h => hw ((isFamilyName_patternName hsmall).mp h)

theorem IsConverted.fault?_name (hf : f.IsConverted) (hp : p ∈ f.placements) :
    Pattern.fault? p.name = none ∨
      Pattern.fault? p.name = some (.tooLarge Pattern.sizeLimit) := by
  obtain ⟨c, d, hd, rfl⟩ := hf.exists_declaration hp
  exact Pattern.fault?_patternName hd

def accessKeyMap : List Char :=
  "PERMISSION_BASE_SEGMENT_MAP
  \x7b\"base:access\", \"access\", TRAIT_TYPE_STRING, \x7btrue, false, false, false\x7d\x7d
  \x7b\"base:date\", \"date\", TRAIT_TYPE_STRING, \x7bfalse, false, false, false\x7d\x7d".toList

def accessFragment : Fragment where
  adminType := ⟨"permission"⟩
  placements := [
    ⟨"base:access", .common, ⟨"access", some .setOnlyString, false,
      some (operatorCode ⟨"STRING"⟩ ⟨true, false, false, false⟩)⟩⟩,
    ⟨"base:date", .extractOnly, ⟨"date", some .string, false, none⟩⟩]
  names_nodup := by simp

set_option maxRecDepth 2000 in
theorem accessFragment_isConverted : accessFragment.IsConverted :=
  ⟨⟨.lenient, ⟨"permission"⟩, .ofRows []⟩, accessKeyMap, 1, rfl⟩

theorem get?_accessFragment :
    (accessFragment.bucket .common).get? "base:access" =
      some ⟨"access", some .setOnlyString, false,
        some (operatorCode ⟨"STRING"⟩ ⟨true, false, false, false⟩)⟩ :=
  Table.get?_of_mem (Table.names_nodup (accessFragment.sorted_bucket .common))
    (mem_bucket.mpr List.mem_cons_self)

end Fragment

end TraitSchema
