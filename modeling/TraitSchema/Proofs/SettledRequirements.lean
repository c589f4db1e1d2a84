import TraitSchema.Proofs.DefinedEntries
import TraitSchema.Proofs.Listings

namespace TraitSchema

theorem Json.beq_bool_iff {value : Json} {b : Bool} :
    (value == .bool b) = true ↔ value = .bool b := by
  cases value with
  | bool c =>
    show (c == b) = true ↔ _
    rw [beq_iff_eq, bool.injEq]
  | _ => exact iff_of_false Bool.false_ne_true (fun h => nomatch h)

theorem Json.ne_bool_iff {found : Option Json} {b : Bool} :
    (found != some (.bool b)) = true ↔ found ≠ some (.bool b) := by
  cases found with
  | none => exact iff_of_true rfl (fun h => nomatch h)
  | some value =>
    rw [bne, Bool.not_eq_true', ← Bool.not_eq_true, ne_eq, Option.some.injEq, ← Json.beq_bool_iff]
    rfl

namespace Conformance

theorem isFamilyName_iff {name : String} : isFamilyName name = true ↔ NamesFamily name := by
  rw [isFamilyName, Bool.or_eq_true, List.contains_iff_mem, Text.occurs_iff]
  rfl

theorem isValidated_iff {d : TraitDefinition} :
    d.isValidated = true ↔ d.bucket ≠ .extractOnly := bne_iff_ne

theorem resolves_iff {doc : Json} {target : String} :
    resolves ((allDefinitions? doc).getD []) target = true ↔
      ∃ name, target = "#/$defs/" ++ name ∧ HasDefinition doc name := by
  rw [resolves]
  constructor
  · intro h
    split at h
    next name ha =>
      have hn : target.toList = SharedType.localStart.toList ++ name :=
        Text.after?_eq_some_iff.mp ha
      refine ⟨String.ofList name, ?_, holds_allDefinitions.mp h⟩
      rw [← String.toList_inj, hn]
      simp [SharedType.localStart]
    next => cases h
  · rintro ⟨name, rfl, hd⟩
    have ha : Text.after? SharedType.localStart.toList ("#/$defs/" ++ name).toList =
        some name.toList := by
      rw [String.toList_append]
      exact Text.after?_append _ _
    rw [ha]
    simpa using holds_allDefinitions.mpr hd

section Lines

variable {α : Type}

/-- The line on something for which there is reason. -/
def lineIf (reason : α → Bool) (line : α → String) (x : α) : Option String :=
  if reason x then some (line x) else none

theorem isSome_lineIf {reason : α → Bool} {line : α → String} {x : α} :
    (lineIf reason line x).isSome = true ↔ reason x = true := by
  rw [lineIf]
  split <;> simp_all

theorem eq_of_lineIf {reason : α → Bool} {line : α → String} {x : α} {text : String}
    (h : lineIf reason line x = some text) : text = line x := by
  rw [lineIf] at h
  split at h
  · exact (Option.some.inj h).symm
  · cases h

theorem map_filter_eq_filterMap {β : Type} (p : α → Bool) (f : α → β) (xs : List α) :
    (xs.filter p).map f = xs.filterMap fun x => if p x then some (f x) else none := by
  rw [← List.filterMap_eq_map, List.filterMap_filter]
  rfl

theorem flatMap_filter {β : Type} (p : α → Bool) (f : α → List β) (xs : List α) :
    (xs.filter p).flatMap f = xs.flatMap fun x => if p x then f x else [] := by
  induction xs with
  | nil => rfl
  | cons x xs ih =>
    rw [List.filter_cons, List.flatMap_cons, ← ih]
    split <;> rfl

end Lines

theorem filterMap_entriesOf (doc : Json) (parts : List String)
    (line? : DefinedEntry → Option String) :
    (entriesOf doc parts).filterMap line? = (traitDefinitions doc).flatMap fun d =>
      parts.flatMap fun part =>
        (d.entries part).filterMap fun pair => line? ⟨d, part, pair.1, pair.2⟩ := by
  simp only [entriesOf, List.filterMap_flatMap, List.filterMap_map]
  rfl

theorem leakedCodes_eq (doc : Json) :
    leakedCodes doc = (entriesOf doc ["properties"]).filterMap
      (lineIf (fun e => (e.entry.get? "operatorCode").isSome)
        fun e => e.definition.name ++ "." ++ e.trait) := by
  rw [filterMap_entriesOf, leakedCodes]
  refine List.flatMap_congr fun d _ => ?_
  rw [map_filter_eq_filterMap]
  exact (List.flatMap_singleton _ _).symm

theorem misplacedFamilies_eq (doc : Json) :
    misplacedFamilies doc = (entriesOf doc ["properties"]).filterMap
      (lineIf (fun e => e.definition.isValidated && isFamilyName e.trait)
        fun e => e.definition.name ++ "." ++ e.trait) := by
  rw [filterMap_entriesOf, misplacedFamilies, flatMap_filter]
  refine List.flatMap_congr fun d _ => ?_
  rw [List.flatMap_singleton, map_filter_eq_filterMap]
  cases hd : d.isValidated with
  | false => simp [lineIf, hd]
  | true => simp only [lineIf, hd, Bool.true_and]; rfl

theorem invalidPatterns_eq (doc : Json) :
    invalidPatterns doc = (entriesOf doc ["patternProperties"]).filterMap fun e =>
      (Pattern.fault? e.trait).map fun fault =>
        e.definition.name ++ ": " ++ e.trait ++ faultText fault := by
  rw [filterMap_entriesOf, invalidPatterns]
  refine List.flatMap_congr fun d _ => ?_
  exact (List.flatMap_singleton _ _).symm

/-- The line on an entry whose reference leads nowhere. -/
def danglingLine? (doc : Json) (e : DefinedEntry) : Option String :=
  ((e.entry.get? "$ref").bind Json.text?).bind fun target =>
    if resolves ((allDefinitions? doc).getD []) target then none
    else some (e.definition.name ++ "." ++ e.trait ++ " -> " ++ target)

theorem danglingReferences_eq (doc : Json) :
    danglingReferences doc =
      (entriesOf doc ["properties", "patternProperties"]).filterMap (danglingLine? doc) := by
  rw [filterMap_entriesOf, danglingReferences]
  refine List.flatMap_congr fun d _ => ?_
  simp only [List.flatMap_cons, List.flatMap_nil, List.append_nil]
  rfl

theorem danglingLine?_eq_some_iff {doc : Json} {e : DefinedEntry} {line : String} :
    danglingLine? doc e = some line ↔ ∃ target, Dangles doc e.entry target ∧
      line = e.definition.name ++ "." ++ e.trait ++ " -> " ++ target := by
  simp only [danglingLine?, Option.bind_eq_some_iff, Json.text?_eq_some_iff, exists_eq_right,
    Dangles, ← resolves_iff]
  refine exists_congr fun target => ?_
  split
  next hr => simp [hr]
  next hr => simp [hr, eq_comm]

theorem map_filter_names {entries : Table Json} (hn : entries.names.Nodup) (trait line : String) :
    (entries.filter fun pair => pair.1 = trait).map (fun _ => line) =
      if trait ∈ entries.names then [line] else [] := by
  induction entries with
  | nil => rfl
  | cons pair entries ih =>
    obtain ⟨hfirst, hrest⟩ := List.nodup_cons.mp hn
    have hcons : trait ∈ Table.names (pair :: entries) ↔
        trait = pair.1 ∨ trait ∈ Table.names entries := List.mem_cons
    rw [List.filter_cons]
    by_cases hp : pair.1 = trait
    · have hnot : trait ∉ Table.names entries := hp ▸ hfirst
      have hm : trait ∈ Table.names (pair :: entries) := hcons.mpr (.inl hp.symm)
      simp only [hp, decide_true, if_true, List.map_cons, ih hrest, if_neg hnot, if_pos hm]
    · have hm : trait ∈ Table.names (pair :: entries) ↔ trait ∈ Table.names entries :=
        hcons.trans (or_iff_right (Ne.symm hp))
      simp only [hp, decide_false, Bool.false_eq_true, if_false, ih hrest, hm]

/-- A list without repetition has two members as soon as it has two places. -/
theorem one_lt_length_iff {names : List String} (hn : names.Nodup) :
    1 < names.length ↔ ∃ x ∈ names, ∃ y ∈ names, x ≠ y := by
  match names with
  | [] => simp
  | [x] => simp
  | x :: y :: rest =>
    have hne : x ≠ y := fun he => (List.nodup_cons.mp hn).1 (he ▸ List.mem_cons_self)
    refine iff_of_true (by simp) ⟨x, by simp, y, by simp, hne⟩

section Partition

variable {doc : Json} (h : doc.Ordered)

include h

/-- The check sees for each owner and trait the definitions that list it, in the order of their
names. -/
theorem listedIn_eq (owner trait : String) :
    listedIn (listings (traitDefinitions doc)) owner trait =
      ((traitDefinitions doc).filter fun d =>
        d.owner = owner ∧ trait ∈ (d.entries "properties").names).map (·.name) := by
  rw [listedIn_listings, listingsOf, List.filter_flatMap, List.map_flatMap,
    List.map_eq_flatMap, flatMap_filter]
  refine List.flatMap_congr fun d hd => ?_
  have hn := names_entries_nodup h (mem_traitDefinitions.mp hd) "properties"
  rw [List.filter_map, List.map_map]
  by_cases ho : d.owner = owner
  · simp only [Function.comp_def, ho, true_and, decide_eq_true_eq]
    exact map_filter_names hn trait d.name
  · simp [ho]

theorem listers_listedIn (owner trait : String) :
    Listers doc owner trait (listedIn (listings (traitDefinitions doc)) owner trait) := by
  rw [listedIn_eq h]
  constructor
  · exact List.pairwise_map.mpr ((sorted_traitDefinitions h).filter _)
  · intro name
    simp only [List.mem_map, List.mem_filter, decide_eq_true_eq, mem_traitDefinitions]
    constructor
    · rintro ⟨d, ⟨hd, ho, ht⟩, hname⟩
      obtain ⟨pair, hp, rfl⟩ := List.mem_map.mp ht
      exact ⟨⟨d, "properties", pair.1, pair.2⟩, ⟨hd, TraitDefinition.mem_entries.mp hp⟩, rfl, ho,
        rfl, hname⟩
    · rintro ⟨⟨d, part, trait, entry⟩, ⟨hd, hm⟩, rfl, ho, rfl, hname⟩
      exact ⟨d, ⟨hd, ho, List.mem_map.mpr ⟨_, TraitDefinition.mem_entries.mpr hm, rfl⟩⟩, hname⟩

/-- A trait offends if more than one definition of its owner is seen to list it. -/
theorem offends_partition_iff {o : String × String} :
    partition.Offends doc o ↔
      1 < (listedIn (listings (traitDefinitions doc)) o.1 o.2).length := by
  obtain ⟨hsorted, hmem⟩ := listers_listedIn h o.1 o.2
  have hn : (listedIn (listings (traitDefinitions doc)) o.1 o.2).Nodup := by
    refine hsorted.imp ?_
    rintro x _ hlt rfl
    exact String.lt_irrefl _ hlt
  rw [one_lt_length_iff hn]
  constructor
  · rintro ⟨e, e', he, he', hp, hp', ho, ho', ht, ht', hne⟩
    exact ⟨_, (hmem _).mpr ⟨e, he, hp, ho, ht, rfl⟩, _, (hmem _).mpr ⟨e', he', hp', ho', ht', rfl⟩,
      hne⟩
  · rintro ⟨x, hx, y, hy, hne⟩
    obtain ⟨e, he, hp, ho, ht, rfl⟩ := (hmem x).mp hx
    obtain ⟨e', he', hp', ho', ht', rfl⟩ := (hmem y).mp hy
    exact ⟨e, e', he, he', hp, hp', ho, ho', ht, ht', hne⟩

end Partition

/-- The owners and traits that the check of the partition has seen. -/
def seenTraits (doc : Json) : List (String × String) :=
  (listings (traitDefinitions doc)).flatMap fun pair => (Table.names pair.2).map (pair.1, ·)

theorem sortedWithin_listings (definitions : List TraitDefinition) :
    SortedWithin (listings definitions) := by
  rw [listings_eq]
  exact sortedWithin_foldl _ ⟨List.Pairwise.nil, fun _ h => nomatch h⟩

theorem seenTraits_nodup (doc : Json) : (seenTraits doc).Nodup := by
  obtain ⟨howners, htraits⟩ := sortedWithin_listings (traitDefinitions doc)
  refine List.nodup_flatMap.mpr ⟨fun pair hp => ?_, ?_⟩
  · exact (Table.names_nodup (htraits pair hp)).map fun _ _ he => (Prod.mk.inj he).2
  · refine howners.imp fun hlt key hk hk' => ?_
    obtain ⟨_, -, rfl⟩ := List.mem_map.mp hk
    obtain ⟨_, -, he⟩ := List.mem_map.mp hk'
    rw [(Prod.mk.inj he).1] at hlt
    exact String.lt_irrefl _ hlt

theorem mem_seenTraits {doc : Json} {o : String × String}
    (h : listedIn (listings (traitDefinitions doc)) o.1 o.2 ≠ []) : o ∈ seenTraits doc := by
  rw [listedIn] at h
  cases ho : (listings (traitDefinitions doc)).get? o.1 with
  | none => simp [ho, Table.get?] at h
  | some traits =>
    cases ht : Table.get? traits o.2 with
    | none => simp [ho, ht] at h
    | some names =>
      exact List.mem_flatMap.mpr ⟨_, Table.mem_of_get? ho,
        List.mem_map.mpr ⟨o.2, List.mem_map.mpr ⟨_, Table.mem_of_get? ht, rfl⟩, rfl⟩⟩

/-- The line on a trait in several definitions of an owner. -/
def overlapLine? (doc : Json) : String × String → Option String :=
  lineIf (fun o => 1 < (listedIn (listings (traitDefinitions doc)) o.1 o.2).length) fun o =>
    o.2 ++ ": " ++ ", ".intercalate (listedIn (listings (traitDefinitions doc)) o.1 o.2)

theorem overlaps_eq (doc : Json) :
    overlaps doc = (seenTraits doc).filterMap (overlapLine? doc) := by
  rw [overlaps, seenTraits, List.filterMap_flatMap]
  refine List.flatMap_congr ?_
  rintro ⟨owner, traits⟩ hp
  show (traits.filter _).map _ = _
  rw [map_filter_eq_filterMap, Table.names, List.map_map, List.filterMap_map]
  refine List.filterMap_congr ?_
  rintro ⟨trait, names⟩ hi
  simp only [Function.comp_apply, overlapLine?, lineIf, listedIn_of_mem hp hi]

namespace CheckResult

theorem expectNone_eq (check passed failed : String) (lines : List String) :
    expectNone check passed failed lines =
      if lines = [] then .pass check passed else ⟨check, .failure, failed, lines⟩ := by
  cases lines <;> rfl

end CheckResult

section Checks

variable {doc : Json} (h : doc.Ordered)

include h

theorem settles_partition :
    ∃ r, (checkPartition doc).results = [r] ∧ partition.Settles doc r := by
  refine ⟨_, rfl, .of_lines (seenTraits_nodup doc) (fun o => ?_) (fun o line hl => ?_)
    (overlaps_eq doc) (CheckResult.expectNone_eq _ _ _ _)⟩
  · -- what is listed more than once has been seen
    rw [offends_partition_iff h, overlapLine?, isSome_lineIf, decide_eq_true_eq]
    refine (and_iff_right_of_imp fun hlength => mem_seenTraits ?_).symm
    exact List.ne_nil_of_length_pos (Nat.lt_of_succ_lt hlength)
  · have hline := eq_of_lineIf (x := o) hl
    exact ⟨_, listers_listedIn h o.1 o.2, hline⟩

theorem settles_codeless : ∃ r, (checkCodes doc).results = [r] ∧ codeless.Settles doc r := by
  refine ⟨_, rfl, .of_lines (entriesOf_nodup h (List.nodup_singleton _)) (fun e => ?_)
    (fun e line hl => eq_of_lineIf hl) (leakedCodes_eq doc) (CheckResult.expectNone_eq _ _ _ _)⟩
  rw [isSome_lineIf, mem_entriesOf, List.mem_singleton, Option.isSome_iff_ne_none, and_assoc]
  rfl

theorem settles_wildcards :
    ∃ r r', (checkWildcards doc).results = [r, r'] ∧ literalNames.Settles doc r ∧
      validPatterns.Settles doc r' := by
  refine ⟨_, _, rfl, ?_, ?_⟩
  · refine .of_lines (entriesOf_nodup h (List.nodup_singleton _)) (fun e => ?_)
      (fun e line hl => eq_of_lineIf hl) (misplacedFamilies_eq doc)
      (CheckResult.expectNone_eq _ _ _ _)
    rw [isSome_lineIf, mem_entriesOf, List.mem_singleton, Bool.and_eq_true, isValidated_iff,
      isFamilyName_iff, and_assoc]
    rfl
  · refine .of_lines (entriesOf_nodup h (List.nodup_singleton _)) (fun e => ?_)
      (fun e line hl => ?_) (invalidPatterns_eq doc) (CheckResult.expectNone_eq _ _ _ _)
    · rw [Option.isSome_map, mem_entriesOf, List.mem_singleton, Option.isSome_iff_ne_none,
        and_assoc]
      rfl
    · obtain ⟨fault, hf, rfl⟩ := Option.map_eq_some_iff.mp hl
      exact ⟨fault, hf, rfl⟩

theorem settles_closedRequests :
    closedRequests.Settles doc (.expectNone closedRequests.check closedRequests.passed
      (closedRequests.failed (openDefinitions (traitDefinitions doc)).length [])
      (openDefinitions (traitDefinitions doc))) := by
  refine .of_lines (traitDefinitions_nodup h) (fun d => ?_) (fun d line hl => eq_of_lineIf hl)
    (map_filter_eq_filterMap _ _ _) (CheckResult.expectNone_eq _ _ _ _)
  rw [isSome_lineIf, mem_traitDefinitions, Bool.and_eq_true, isValidated_iff, Json.ne_bool_iff]
  rfl

theorem settles_openDocumentation :
    openDocumentation.Settles doc (if restrictedDefinitions (traitDefinitions doc) = [] then
      .pass openDocumentation.check openDocumentation.passed
      else .warn openDocumentation.check (openDocumentation.failed
        (restrictedDefinitions (traitDefinitions doc)).length [])
        (restrictedDefinitions (traitDefinitions doc))) := by
  refine .of_lines (traitDefinitions_nodup h) (fun d => ?_) (fun d line hl => eq_of_lineIf hl)
    (map_filter_eq_filterMap _ _ _) rfl
  rw [isSome_lineIf, mem_traitDefinitions, Bool.and_eq_true, Option.isSome_iff_ne_none]
  simp [TraitDefinition.isValidated]
  rfl

theorem settles_references :
    ∃ r, (checkReferences doc).results = [r] ∧ resolvedReferences.Settles doc r := by
  refine ⟨_, rfl, .of_lines (entriesOf_nodup h (by decide)) (fun e => ?_)
    (fun e line hl => danglingLine?_eq_some_iff.mp hl) (danglingReferences_eq doc)
    (CheckResult.expectNone_eq _ _ _ _)⟩
  simp only [Option.isSome_iff_exists, danglingLine?_eq_some_iff, mem_entriesOf, List.mem_cons,
    List.not_mem_nil, or_false, and_assoc]
  rw [exists_comm]
  simp only [exists_and_left, exists_eq, and_true]
  rfl

end Checks

end Conformance

end TraitSchema
