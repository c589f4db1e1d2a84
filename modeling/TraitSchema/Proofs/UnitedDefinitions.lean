import Mathlib.Data.List.Nodup
import TraitSchema.Generation
import TraitSchema.Proofs.DefinitionNames
import TraitSchema.Proofs.TableContents

namespace TraitSchema

namespace Table

variable {α : Type}

theorem perm_put {t : Table α} {name : String} (h : name ∉ t.names) (value : α) :
    (t.put name value).Perm ((name, value) :: t) := by
  induction t with
  | nil => exact List.Perm.refl _
  | cons pair t ih =>
    simp only [names, List.map_cons, List.mem_cons, not_or] at h
    rw [put]
    split
    next => exact List.Perm.refl _
    next =>
      rw [if_neg h.1]
      exact ((ih h.2).cons pair).trans (List.Perm.swap _ _ _)

end Table

namespace Json

/-- Members under new keys are added as they are. -/
theorem perm_uniteMembers (join : Json → Json → Json) {left right : Table Json}
    (hr : right.names.Nodup) (hd : ∀ name ∈ right.names, name ∉ left.names) :
    (uniteMembers join left right).Perm (left ++ right) := by
  induction right generalizing left with
  | nil => simp [uniteMembers]
  | cons pair right ih =>
    obtain ⟨key, value⟩ := pair
    obtain ⟨hfirst, hrest⟩ := List.nodup_cons.mp hr
    have hnew : key ∉ left.names := hd _ List.mem_cons_self
    have hput := Table.perm_put hnew value
    have hnames : ∀ name ∈ Table.names right, name ∉ (left.put key value).names := by
      intro name hm hput'
      rcases List.mem_cons.mp ((hput.map (·.1)).mem_iff.mp hput') with he | hl
      · exact hfirst (he ▸ hm)
      · exact hd name (List.mem_cons_of_mem _ hm) hl
    have hstep : uniteMembers join left ((key, value) :: right) =
        uniteMembers join (left.put key value) right := by
      simp only [uniteMembers, List.foldl_cons, Table.get?_eq_none_iff.mpr hnew]
    rw [hstep]
    exact (ih hrest hnames).trans ((hput.append_right right).trans List.perm_middle.symm)

end Json

namespace Fragment

theorem exists_suffix?_of_mem_definedBuckets {f : Fragment} {b : Bucket}
    (h : b ∈ f.definedBuckets) :
    ∃ ending, b.suffix? = some ending ∧
      definitionName f.adminType b = f.adminType.camelName ++ ending := by
  have hb := (List.mem_filter.mp h).1
  simp only [List.mem_cons, List.not_mem_nil, or_false] at hb
  rcases hb with rfl | rfl | rfl | rfl <;> exact ⟨_, rfl, rfl⟩

theorem suffix?_of_mem_definedBuckets {f : Fragment} {b : Bucket} (h : b ∈ f.definedBuckets) :
    b.suffix? ≠ none := by
  obtain ⟨ending, hending, -⟩ := exists_suffix?_of_mem_definedBuckets h
  exact Option.ne_none_iff_exists'.mpr ⟨ending, hending⟩

/-- The name of a definition tells the bucket and the start of the name. -/
theorem definitionName_inj {t u : AdminType} {b c : Bucket} (hb : b.suffix? ≠ none)
    (hc : c.suffix? ≠ none) (h : definitionName t b = definitionName u c) :
    b = c ∧ t.camelName = u.camelName := by
  obtain ⟨ending, hb⟩ := Option.ne_none_iff_exists'.mp hb
  obtain ⟨ending', hc⟩ := Option.ne_none_iff_exists'.mp hc
  rw [definitionName, definitionName, hb, hc] at h
  exact Bucket.suffix?_unique hb hc h

theorem definedBuckets_nodup (f : Fragment) : f.definedBuckets.Nodup :=
  List.Nodup.filter _ (by decide)

theorem mem_names_definitions {f : Fragment} {name : String} :
    name ∈ Table.names f.definitions ↔
      ∃ b ∈ f.definedBuckets, name = definitionName f.adminType b := by
  simp only [Table.names, definitions, List.map_map, List.mem_map, Function.comp_apply, eq_comm]

def traitDefinition (f : Fragment) (b : Bucket) : Conformance.TraitDefinition :=
  ⟨definitionName f.adminType b, f.adminType.camelName, b, f.body b⟩

theorem ofMember?_definition {f : Fragment} (hf : f.adminType.camelName ≠ "") {b : Bucket}
    (hb : b ∈ f.definedBuckets) :
    Conformance.TraitDefinition.ofMember? (definitionName f.adminType b) (f.body b) =
      some (f.traitDefinition b) := by
  obtain ⟨ending, he, hn⟩ := exists_suffix?_of_mem_definedBuckets hb
  rw [traitDefinition, hn]
  exact Conformance.TraitDefinition.ofMember?_append _ hf he

theorem filterMap_definitions {f : Fragment} (hf : f.adminType.camelName ≠ "") :
    f.definitions.filterMap (fun (name, body) =>
        Conformance.TraitDefinition.ofMember? name body) =
      f.definedBuckets.map f.traitDefinition := by
  rw [definitions, List.filterMap_map]
  refine Eq.trans (List.filterMap_congr ?_) (congrFun List.filterMap_eq_map _)
  intro b hb
  exact ofMember?_definition hf hb

end Fragment

namespace Aggregate

theorem definitions_foldl_add (fragments : List Fragment) (a : Aggregate) :
    (fragments.foldl add a).definitions =
      (fragments.flatMap Fragment.definitions).foldl (fun t pair => t.put pair.1 pair.2)
        a.definitions := by
  induction fragments generalizing a with
  | nil => rfl
  | cons f fragments ih =>
    rw [List.foldl_cons, ih, List.flatMap_cons, List.foldl_append]
    rfl

theorem definitions_ofFragments (fragments : List Fragment) :
    (ofFragments fragments).definitions =
      Table.ofList (fragments.flatMap Fragment.definitions) :=
  definitions_foldl_add fragments empty

end Aggregate

section Fragments

variable {fragments : List Fragment}

/-- Fragments whose definitions are named apart give distinct names. -/
theorem names_definitions_nodup
    (hdistinct : (fragments.map (·.adminType.camelName)).Nodup) :
    (Table.names (fragments.flatMap Fragment.definitions)).Nodup := by
  rw [Table.names, List.map_flatMap, List.nodup_flatMap]
  have hsame : ∀ {f g : Fragment} {b c : Bucket}, b ∈ f.definedBuckets → c ∈ g.definedBuckets →
      Fragment.definitionName f.adminType b = Fragment.definitionName g.adminType c →
      b = c ∧ f.adminType.camelName = g.adminType.camelName := fun hb hc =>
    Fragment.definitionName_inj (Fragment.suffix?_of_mem_definedBuckets hb)
      (Fragment.suffix?_of_mem_definedBuckets hc)
  constructor
  · intro f _
    rw [Fragment.definitions, List.map_map]
    exact List.Nodup.map_on (fun b hb c hc he => (hsame hb hc he).1) f.definedBuckets_nodup
  · refine (List.pairwise_map.mp hdistinct).imp ?_
    intro f g hne name hf hg
    obtain ⟨b, hb, hbn⟩ := Fragment.mem_names_definitions.mp hf
    obtain ⟨c, hc, hcn⟩ := Fragment.mem_names_definitions.mp hg
    exact hne (hsame hb hc (hbn.symm.trans hcn)).2

theorem isGeneratedName_of_mem_names (hne : ∀ f ∈ fragments, f.adminType.camelName ≠ "")
    {name : String} (h : name ∈ Table.names (fragments.flatMap Fragment.definitions)) :
    IsGeneratedName name := by
  rw [Table.names, List.map_flatMap] at h
  obtain ⟨f, hf, h⟩ := List.mem_flatMap.mp h
  obtain ⟨b, hb, rfl⟩ := Fragment.mem_names_definitions.mp h
  obtain ⟨ending, he, hn⟩ := Fragment.exists_suffix?_of_mem_definedBuckets hb
  exact ⟨_, ending, hne f hf, Bucket.exists_suffix?_iff.mp ⟨b, he⟩, hn⟩

namespace Conformance

theorem allDefinitions?_put (members definitions : Table Json) :
    allDefinitions? (.object (members.put definitionsKey (.object definitions))) =
      some definitions :=
  congrArg (Option.bind · Json.members?)
    (Table.get?_put_self members definitionsKey (.object definitions))

/-- The definitions of the union of a base schema and of definitions under new keys. -/
theorem allDefinitions?_unite {base : Json} (hbase : Generation.isBaseSchema base = true)
    {added : Table Json} (hn : added.names.Nodup)
    (hnew : ∀ name ∈ added.names, name ∉ ((allDefinitions? base).getD []).names) :
    ((allDefinitions?
        (Json.uniteSchemas base (.object [(definitionsKey, .object added)]))).getD []).Perm
      ((allDefinitions? base).getD [] ++ added) := by
  obtain ⟨hobject, hdefs⟩ := Bool.and_eq_true_iff.mp hbase
  cases base with
  | object members =>
    have hold : allDefinitions? (.object members) =
        (Table.get? members definitionsKey).bind Json.members? := rfl
    rw [hold] at hnew ⊢
    cases hg : Table.get? members definitionsKey with
    | none =>
      have hunited : Json.uniteSchemas (.object members)
          (.object [(definitionsKey, .object added)]) =
          .object (Table.put members definitionsKey (.object added)) := by
        simp only [Json.uniteSchemas, Json.schemaLevels, Json.unite, Json.uniteMembers,
          List.foldl_cons, List.foldl_nil, hg]
      rw [hunited, allDefinitions?_put]
      exact List.Perm.refl _
    | some existing =>
      have hexisting : existing.isObject = true := by
        have hall : ((Json.object members).get? definitionsKey).all Json.isObject = true := hdefs
        rw [show (Json.object members).get? definitionsKey = some existing from hg] at hall
        exact hall
      cases existing with
      | object old =>
        have hunited : Json.uniteSchemas (.object members)
            (.object [(definitionsKey, .object added)]) =
            .object (Table.put members definitionsKey
              (.object (Json.uniteMembers (Json.unite 1) old added))) := by
          simp only [Json.uniteSchemas, Json.schemaLevels, Json.unite, Json.uniteMembers,
            List.foldl_cons, List.foldl_nil, hg]
        rw [hg] at hnew
        rw [hunited, allDefinitions?_put]
        exact Json.perm_uniteMembers _ hn hnew
      | _ => cases hexisting
  | _ => cases hobject

section Generated

variable {base : Json} (hbase : Generation.isBaseSchema base = true)
  (hplain : ∀ name ∈ ((allDefinitions? base).getD []).names, ¬ IsGeneratedName name)
  (hne : ∀ f ∈ fragments, f.adminType.camelName ≠ "")
  (hdistinct : (fragments.map (·.adminType.camelName)).Nodup)

include hbase hplain hne hdistinct

theorem perm_allDefinitions :
    ((allDefinitions?
        (Json.uniteSchemas base (Aggregate.ofFragments fragments).document)).getD []).Perm
      ((allDefinitions? base).getD [] ++ fragments.flatMap Fragment.definitions) := by
  have hn := names_definitions_nodup hdistinct
  have hperm := Table.perm_ofList hn
  rw [Aggregate.document, Aggregate.definitions_ofFragments]
  refine (allDefinitions?_unite hbase (Table.names_nodup (Table.sorted_ofList _)) ?_).trans
    (hperm.append_left _)
  intro name hm hbaseName
  have hm := (hperm.map (·.1)).mem_iff.mp hm
  exact hplain name hbaseName (isGeneratedName_of_mem_names hne hm)

/-- The definitions of traits of a generated schema are those of its fragments. -/
theorem perm_traitDefinitions :
    (traitDefinitions (Json.uniteSchemas base (Aggregate.ofFragments fragments).document)).Perm
      (fragments.flatMap fun f => f.definedBuckets.map f.traitDefinition) := by
  have hperm := (perm_allDefinitions hbase hplain hne hdistinct).filterMap
    fun (name, body) => TraitDefinition.ofMember? name body
  have hold : ((allDefinitions? base).getD []).filterMap
      (fun (name, body) => TraitDefinition.ofMember? name body) = [] := by
    apply List.filterMap_eq_nil_iff.mpr
    intro pair hp
    exact TraitDefinition.ofMember?_eq_none _ (hplain _ (List.mem_map.mpr ⟨pair, hp, rfl⟩))
  have hadded : (fragments.flatMap Fragment.definitions).filterMap
      (fun (name, body) => TraitDefinition.ofMember? name body) =
      fragments.flatMap fun f => f.definedBuckets.map f.traitDefinition := by
    rw [List.filterMap_flatMap]
    exact List.flatMap_congr fun f hf => Fragment.filterMap_definitions (hne f hf)
  rw [List.filterMap_append, hold, List.nil_append, hadded] at hperm
  exact hperm

/-- A shared definition is in a generated schema if and only if it is in the base schema. -/
theorem holds_sharedType (type : SharedType) :
    ((allDefinitions?
        (Json.uniteSchemas base (Aggregate.ofFragments fragments).document)).getD []).holds
          type.name =
      ((allDefinitions? base).getD []).holds type.name := by
  have hperm := perm_allDefinitions hbase hplain hne hdistinct
  rw [Bool.eq_iff_iff, Table.holds_iff, Table.holds_iff, Table.names, (hperm.map _).mem_iff,
    List.map_append, List.mem_append]
  refine or_iff_left fun hm => type.not_isGeneratedName ?_
  exact isGeneratedName_of_mem_names hne hm

end Generated

end Conformance

end Fragments

end TraitSchema
