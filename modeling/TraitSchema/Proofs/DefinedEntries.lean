import TraitSchema.Proofs.DefinitionNames
import TraitSchema.Proofs.DocumentMembers
import TraitSchema.Proofs.Requirements

namespace TraitSchema.Conformance

theorem mem_bucketEndings {b : Bucket} {ending : String} :
    (b, ending) ∈ bucketEndings ↔ b.suffix? = some ending := by
  cases b <;> simp [bucketEndings, Bucket.suffix?, eq_comm]

theorem allDefinitions?_eq_some_iff {doc : Json} {definitions : Table Json} :
    allDefinitions? doc = some definitions ↔ doc.get? "$defs" = some (.object definitions) := by
  rw [allDefinitions?, Option.bind_eq_some_iff]
  simp only [Json.members?_eq_some_iff, exists_eq_right]
  rfl

theorem mem_allDefinitions {doc : Json} {pair : String × Json} :
    pair ∈ (allDefinitions? doc).getD [] ↔
      ∃ definitions, doc.get? "$defs" = some (.object definitions) ∧ pair ∈ definitions := by
  simp only [← allDefinitions?_eq_some_iff]
  cases allDefinitions? doc <;> simp

/-- The definitions that the checks go through are those of the schema. -/
theorem mem_traitDefinitions {doc : Json} {d : TraitDefinition} :
    d ∈ traitDefinitions doc ↔ Defines doc d := by
  rw [traitDefinitions, List.mem_filterMap]
  simp only [Prod.exists, TraitDefinition.ofMember?_eq_some_iff, TraitDefinition.split?_eq_some_iff,
    ← mem_bucketEndings]
  constructor
  · rintro ⟨name, body, hm, ⟨ho, ending, he, hn⟩, rfl, rfl⟩
    obtain ⟨definitions, hdefs, hm⟩ := mem_allDefinitions.mp hm
    exact ⟨definitions, hdefs, hm, ho, ending, he, hn⟩
  · rintro ⟨definitions, hdefs, hm, ho, ending, he, hn⟩
    exact ⟨_, _, mem_allDefinitions.mpr ⟨definitions, hdefs, hm⟩, ⟨ho, ending, he, hn⟩, rfl, rfl⟩

theorem holds_allDefinitions {doc : Json} {name : String} :
    ((allDefinitions? doc).getD []).holds name = true ↔ HasDefinition doc name := by
  rw [Table.holds_iff, Table.names, List.mem_map]
  constructor
  · rintro ⟨pair, hp, rfl⟩
    obtain ⟨definitions, hdefs, hm⟩ := mem_allDefinitions.mp hp
    exact ⟨definitions, hdefs, List.mem_map.mpr ⟨pair, hm, rfl⟩⟩
  · rintro ⟨definitions, hdefs, hm⟩
    obtain ⟨pair, hp, rfl⟩ := List.mem_map.mp hm
    exact ⟨pair, mem_allDefinitions.mpr ⟨definitions, hdefs, hp⟩, rfl⟩

section Ordered

variable {doc : Json} (h : doc.Ordered)

include h

theorem sorted_allDefinitions : Table.Sorted ((allDefinitions? doc).getD []) := by
  cases hd : allDefinitions? doc with
  | none => exact List.Pairwise.nil
  | some definitions => exact (h.get? (allDefinitions?_eq_some_iff.mp hd)).1

theorem sorted_traitDefinitions : (traitDefinitions doc).Pairwise fun d e => d.name < e.name := by
  refine (sorted_allDefinitions h).filterMap _ ?_
  rintro ⟨name, body⟩ ⟨name', body'⟩ hlt d hd e he
  rw [← (TraitDefinition.ofMember?_eq_some_iff.mp hd).2.1,
    ← (TraitDefinition.ofMember?_eq_some_iff.mp he).2.1] at hlt
  exact hlt

theorem traitDefinitions_nodup : (traitDefinitions doc).Nodup := by
  refine (sorted_traitDefinitions h).imp ?_
  rintro d _ hlt rfl
  exact String.lt_irrefl _ hlt

end Ordered

namespace TraitDefinition

/-- What a part of the definition holds. -/
def entries (d : TraitDefinition) (part : String) : Table Json :=
  ((d.body.get? part).bind Json.members?).getD []

theorem mem_entries {d : TraitDefinition} {part : String} {pair : String × Json} :
    pair ∈ d.entries part ↔
      ∃ entries, d.body.get? part = some (.object entries) ∧ pair ∈ entries := by
  rw [entries]
  cases hb : d.body.get? part with
  | none => simp
  | some value => cases value <;> simp [Json.members?]

end TraitDefinition

/-- The entries in these parts of the definitions of a schema. -/
def entriesOf (doc : Json) (parts : List String) : List DefinedEntry :=
  (traitDefinitions doc).flatMap fun d => parts.flatMap fun part =>
    (d.entries part).map fun pair => ⟨d, part, pair.1, pair.2⟩

theorem mem_entriesOf {doc : Json} {parts : List String} {e : DefinedEntry} :
    e ∈ entriesOf doc parts ↔ e.IsIn doc ∧ e.part ∈ parts := by
  simp only [entriesOf, List.mem_flatMap, List.mem_map, mem_traitDefinitions]
  constructor
  · rintro ⟨d, hd, part, hp, pair, hm, rfl⟩
    exact ⟨⟨hd, TraitDefinition.mem_entries.mp hm⟩, hp⟩
  · rintro ⟨⟨hd, hm⟩, hp⟩
    exact ⟨e.definition, hd, e.part, hp, (e.trait, e.entry),
      TraitDefinition.mem_entries.mpr hm, rfl⟩

theorem names_entries_nodup {doc : Json} (h : doc.Ordered) {d : TraitDefinition}
    (hd : Defines doc d) (part : String) : (d.entries part).names.Nodup := by
  obtain ⟨definitions, hdefs, hm, -⟩ := hd
  have hbody : d.body.Ordered := Json.orderedMembers_iff.mp (h.get? hdefs).2 _ hm
  rw [TraitDefinition.entries]
  cases hb : d.body.get? part with
  | none => exact List.nodup_nil
  | some value =>
    cases value with
    | object entries => exact Table.names_nodup (hbody.get? hb).1
    | _ => exact List.nodup_nil

theorem entriesOf_nodup {doc : Json} (h : doc.Ordered) {parts : List String}
    (hparts : parts.Nodup) : (entriesOf doc parts).Nodup := by
  refine List.nodup_flatMap.mpr ⟨fun d hd => List.nodup_flatMap.mpr ⟨fun part _ => ?_, ?_⟩, ?_⟩
  · refine List.Nodup.map (fun pair pair' he => ?_)
      (names_entries_nodup h (mem_traitDefinitions.mp hd) part).of_map
    simp only [DefinedEntry.mk.injEq, true_and] at he
    exact Prod.ext he.1 he.2
  · refine hparts.imp fun hne e he he' => hne ?_
    obtain ⟨pair, -, rfl⟩ := List.mem_map.mp he
    obtain ⟨pair', -, heq⟩ := List.mem_map.mp he'
    exact (congrArg DefinedEntry.part heq).symm
  · refine (traitDefinitions_nodup h).imp fun hne e he he' => hne ?_
    obtain ⟨part, -, he⟩ := List.mem_flatMap.mp he
    obtain ⟨part', -, he'⟩ := List.mem_flatMap.mp he'
    obtain ⟨pair, -, rfl⟩ := List.mem_map.mp he
    obtain ⟨pair', -, heq⟩ := List.mem_map.mp he'
    exact (congrArg DefinedEntry.definition heq).symm

theorem forall₂_filterMap {α : Type} (line? : α → Option String) (xs : List α) :
    List.Forall₂ (fun x line => line? x = some line) (xs.filter fun x => (line? x).isSome)
      (xs.filterMap line?) := by
  induction xs with
  | nil => exact .nil
  | cons x xs ih =>
    cases hx : line? x with
    | none => simpa [List.filter_cons, hx] using ih
    | some line =>
      rw [List.filter_cons_of_pos (by simp [hx]), List.filterMap_cons_some hx]
      exact .cons hx ih

/-- A check that goes through a list without repetition and has a line on each thing that offends
settles its requirement. -/
theorem Requirement.Settles.of_lines {α : Type} {q : Requirement α} {doc : Json} {xs : List α}
    {line? : α → Option String} (hxs : xs.Nodup)
    (hoffends : ∀ x, q.Offends doc x ↔ x ∈ xs ∧ (line? x).isSome = true)
    (hline : ∀ x line, line? x = some line → q.Says doc x line) {lines : List String}
    (hl : lines = xs.filterMap line?) {r : CheckResult}
    (hr : r = if lines = [] then .pass q.check q.passed
      else ⟨q.check, q.severity, q.failed lines.length lines, lines⟩) :
    q.Settles doc r := by
  subst hl
  have hlines := forall₂_filterMap line? xs
  have hnil : xs.filterMap line? = [] ↔ xs.filter (fun x => (line? x).isSome) = [] := by
    rw [← List.length_eq_zero_iff, ← hlines.length_eq, List.length_eq_zero_iff]
  refine ⟨xs.filter fun x => (line? x).isSome, xs.filterMap line?, hxs.filter _, ?_,
    hlines.imp hline, ?_⟩
  · intro x
    rw [hoffends, List.mem_filter]
  · rw [hr, hlines.length_eq]
    exact if_congr hnil rfl rfl

end TraitSchema.Conformance
