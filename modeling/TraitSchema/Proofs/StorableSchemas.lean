import TraitSchema.Generation
import TraitSchema.Proofs.DefinitionBodies
import TraitSchema.Proofs.UnionLaws

namespace TraitSchema

namespace Json

theorem storable_string (depth : Nat) (s : String) : Storable depth (.string s) := by
  refine ⟨?_, .string s, trivial⟩
  cases depth <;> trivial

theorem storable_bool (depth : Nat) (b : Bool) : Storable depth (.bool b) := by
  refine ⟨?_, .bool b, trivial⟩
  cases depth <;> trivial

theorem storable_ofMembers {depth : Nat} {members : List (String × Json)}
    (h : ∀ member ∈ members, Storable depth member.2) : Storable (depth + 1) (ofMembers members) :=
  storable_object (Table.sorted_ofList members) fun member hm =>
    h member (Table.mem_of_mem_ofList hm)

end Json

open Json

theorem Table.sorted_mapValues {α β : Type} {t : Table α} (h : t.Sorted) (f : α → β) :
    (t.mapValues f).Sorted :=
  List.pairwise_map.mpr h

theorem TraitEntry.storable_toJson (depth : Nat) (entry : TraitEntry) (withCode : Bool) :
    Storable (depth + 1) (entry.toJson withCode) := by
  refine storable_ofMembers fun member hm => ?_
  rcases List.mem_append.mp hm with hm | hm
  · rcases List.mem_append.mp hm with hm | hm
    · simp only [List.mem_cons, List.not_mem_nil, or_false] at hm
      rcases hm with rfl | rfl <;> exact storable_string depth _
    · split at hm
      · cases List.mem_singleton.mp hm
        exact storable_bool depth true
      · cases hm
  · split at hm
    · split at hm
      · cases List.mem_singleton.mp hm
        exact storable_string depth _
      · cases hm
    · cases hm

namespace Fragment

theorem storable_listing (depth : Nat) (f : Fragment) (b : Bucket) (withCode : Bool) :
    Storable (depth + 2) (f.listing b withCode) := by
  refine storable_object (Table.sorted_mapValues (f.sorted_bucket b) _) fun member hm => ?_
  obtain ⟨entry, -, he⟩ := Table.mem_mapValues.mp hm
  exact he ▸ entry.storable_toJson depth withCode

theorem storable_body (depth : Nat) (f : Fragment) (b : Bucket) :
    Storable (depth + 3) (f.body b) := by
  rw [body]
  split
  · refine storable_ofMembers fun member hm => ?_
    cases List.mem_singleton.mp hm
    exact f.storable_listing depth .extractOnly false
  · refine storable_ofMembers fun member hm => ?_
    rcases List.mem_append.mp hm with hm | hm
    · rcases List.mem_append.mp hm with hm | hm
      · cases List.mem_singleton.mp hm
        exact f.storable_listing depth b false
      · split at hm
        · cases List.mem_singleton.mp hm
          exact f.storable_listing depth .pattern true
        · cases hm
    · cases List.mem_singleton.mp hm
      exact storable_bool (depth + 2) false

end Fragment

namespace Aggregate

theorem storable_document (depth : Nat) (fragments : List Fragment) :
    Storable (depth + 5) (ofFragments fragments).document := by
  have hdefinitions : Storable (depth + 4) (.object (ofFragments fragments).definitions) := by
    rw [definitions_ofFragments]
    refine storable_ofMembers fun member hm => ?_
    obtain ⟨f, -, hm⟩ := List.mem_flatMap.mp hm
    obtain ⟨b, -, rfl⟩ := List.mem_map.mp hm
    exact f.storable_body depth b
  refine storable_object (List.pairwise_singleton _ _) fun member hm => ?_
  cases List.mem_singleton.mp hm
  exact hdefinitions

end Aggregate

namespace Generation

/-- The schema that a base schema and the fragments of key maps give. -/
def masterSchema (base : Json) (converted : List Converted) : Json :=
  uniteSchemas base (Aggregate.ofFragments (converted.map (·.fragment))).document

theorem storable_masterSchema {base : Json} (h : Storable nestingLimit base)
    (converted : List Converted) : Storable nestingLimit (masterSchema base converted) :=
  storable_unite schemaLevels h (Aggregate.storable_document 122 _)

/-- The definitions that a schema already has are not added twice. -/
theorem masterSchema_masterSchema {base : Json} (h : base.Ordered) (converted : List Converted) :
    masterSchema (masterSchema base converted) converted = masterSchema base converted :=
  unite_unite_right schemaLevels h (Aggregate.storable_document 0 _).ordered

/-- A generated schema can be the base schema of another run. -/
theorem isBaseSchema_masterSchema {base : Json} (h : isBaseSchema base = true)
    (converted : List Converted) : isBaseSchema (masterSchema base converted) = true := by
  obtain ⟨hobject, -⟩ := Bool.and_eq_true_iff.mp h
  refine Bool.and_eq_true_iff.mpr ⟨isObject_unite rfl, ?_⟩
  have hordered := (Aggregate.storable_document 0 (converted.map (·.fragment))).ordered
  rw [masterSchema, uniteSchemas, schemaLevels, get?_unite hordered ⟨hobject, rfl⟩]
  cases hg : base.get? definitionsKey with
  | none => rfl
  | some existing => exact isObject_unite rfl

end Generation

end TraitSchema
