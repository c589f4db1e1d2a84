import Mathlib.Data.List.Nodup
import TraitSchema.Conformance.Checks
import TraitSchema.Proofs.TableContents

namespace TraitSchema.Conformance

structure Listing where
  owner : String
  trait : String
  definition : String

def listingsOf (definitions : List TraitDefinition) : List Listing :=
  definitions.flatMap fun d =>
    (d.properties?.getD []).map fun pair => ⟨d.owner, pair.1, d.name⟩

theorem perm_listingsOf {ds es : List TraitDefinition} (h : ds.Perm es) :
    (listingsOf ds).Perm (listingsOf es) :=
  h.flatMap_right _

def addListing (seen : Table (Table (List String))) (l : Listing) : Table (Table (List String)) :=
  let traits := (seen.get? l.owner).getD []
  let names := (Table.get? traits l.trait).getD []
  seen.put l.owner (Table.put traits l.trait (names ++ [l.definition]))

/-- The definitions seen that list a trait of an owner. -/
def listedIn (seen : Table (Table (List String))) (owner trait : String) : List String :=
  (Table.get? ((seen.get? owner).getD []) trait).getD []

/-- Every table in the table has its names in order. -/
def SortedWithin (seen : Table (Table (List String))) : Prop :=
  Table.Sorted seen ∧ ∀ pair ∈ seen, Table.Sorted pair.2

theorem listings_eq (definitions : List TraitDefinition) :
    listings definitions = (listingsOf definitions).foldl addListing [] := by
  simp only [listings, listingsOf, List.foldl_flatMap, List.foldl_map]
  rfl

theorem sortedWithin_addListing {seen : Table (Table (List String))} (h : SortedWithin seen)
    (l : Listing) : SortedWithin (addListing seen l) := by
  refine ⟨Table.sorted_put h.1 _ _, ?_⟩
  have htraits : Table.Sorted ((seen.get? l.owner).getD []) := by
    cases hg : seen.get? l.owner with
    | none => exact List.Pairwise.nil
    | some traits => exact h.2 _ (Table.mem_of_get? hg)
  intro pair hp
  rcases Table.mem_put hp with rfl | hp
  · exact Table.sorted_put htraits _ _
  · exact h.2 pair hp

theorem listedIn_addListing (seen : Table (Table (List String))) (l : Listing)
    (owner trait : String) :
    listedIn (addListing seen l) owner trait =
      listedIn seen owner trait ++
        if l.owner = owner ∧ l.trait = trait then [l.definition] else [] := by
  simp only [listedIn, addListing, Table.get?_put]
  by_cases ho : owner = l.owner
  · subst ho
    by_cases ht : trait = l.trait
    · simp [Table.get?_put, ht]
    · simp [Table.get?_put, ht, Ne.symm ht]
  · simp [ho, Ne.symm ho]

theorem sortedWithin_foldl (ls : List Listing) {seen : Table (Table (List String))}
    (h : SortedWithin seen) : SortedWithin (ls.foldl addListing seen) := by
  induction ls generalizing seen with
  | nil => exact h
  | cons l ls ih => exact ih (sortedWithin_addListing h l)

theorem listedIn_foldl (ls : List Listing) (seen : Table (Table (List String)))
    (owner trait : String) :
    listedIn (ls.foldl addListing seen) owner trait =
      listedIn seen owner trait ++
        (ls.filter fun l => l.owner = owner ∧ l.trait = trait).map (·.definition) := by
  induction ls generalizing seen with
  | nil => simp
  | cons l ls ih =>
    rw [List.foldl_cons, ih, listedIn_addListing, List.append_assoc, List.filter_cons]
    by_cases hl : l.owner = owner ∧ l.trait = trait <;> simp [hl]

theorem listedIn_listings (definitions : List TraitDefinition) (owner trait : String) :
    listedIn (listings definitions) owner trait =
      ((listingsOf definitions).filter fun l => l.owner = owner ∧ l.trait = trait).map
        (·.definition) := by
  rw [listings_eq, listedIn_foldl]
  rfl

/-- What stands in the table of all listings is what is found by owner and trait. -/
theorem listedIn_of_mem {definitions : List TraitDefinition} {owner trait : String}
    {traits : Table (List String)} {names : List String}
    (ho : (owner, traits) ∈ listings definitions) (ht : (trait, names) ∈ traits) :
    listedIn (listings definitions) owner trait = names := by
  have hs : SortedWithin (listings definitions) := by
    rw [listings_eq]
    exact sortedWithin_foldl _ ⟨List.Pairwise.nil, fun _ h => nomatch h⟩
  have htraits : Table.Sorted traits := hs.2 _ ho
  rw [listedIn, Table.get?_of_mem (Table.names_nodup hs.1) ho, Option.getD_some,
    Table.get?_of_mem (Table.names_nodup htraits) ht, Option.getD_some]

/-- No trait overlaps if each owner has it in one definition at most. -/
theorem overlaps_eq_nil {doc : Json}
    (h : ((listingsOf (traitDefinitions doc)).map fun l => (l.owner, l.trait)).Nodup) :
    overlaps doc = [] := by
  apply List.flatMap_eq_nil_iff.mpr
  rintro ⟨owner, traits⟩ ho
  rw [List.map_eq_nil_iff, List.filter_eq_nil_iff]
  rintro ⟨trait, names⟩ ht
  rw [decide_eq_true_eq, Nat.not_lt, ← listedIn_of_mem ho ht, listedIn_listings, List.length_map]
  have hcount := List.nodup_iff_count_le_one.mp h (owner, trait)
  rw [List.count, List.countP_map, List.countP_eq_length_filter] at hcount
  refine Nat.le_trans (Nat.le_of_eq ?_) hcount
  congr 1
  apply List.filter_congr
  intro l _
  simp [Bool.decide_and, BEq.beq]

end TraitSchema.Conformance
