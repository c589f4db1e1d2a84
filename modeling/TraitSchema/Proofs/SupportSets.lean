import TraitSchema.Proofs.ConversionSteps
import TraitSchema.Proofs.SupportLookup

namespace TraitSchema

/-- Entries resolve to the same operations in any order and any number. -/
theorem SupportRules.resolve_eq_of_mem_iff (rules : SupportRules)
    {entries entries' : List SupportEntry} (h : ∀ entry, entry ∈ entries ↔ entry ∈ entries') :
    rules.resolve entries = rules.resolve entries' := by
  have hany : ∀ p : SupportEntry → Bool, entries.any p = entries'.any p := by
    intro p
    rw [Bool.eq_iff_iff]
    simp only [List.any_eq_true, h]
  simp only [resolve, hany]

namespace MatrixDocument

variable {doc doc' : Json} {segment key : String}

/-- Some record of operations for the segment and key gives the entry. -/
def GivesEntry (doc : Json) (segment key : String) (entry : SupportEntry) : Prop :=
  ∃ source record, HasRecord doc segment key source record ∧ SupportEntry.Gives record entry

/-- The documents say the same of the segment and key: both know the trait or neither does, their
records for it are well typed, and these give the same entries. -/
structure SameEntries (doc doc' : Json) (segment key : String) : Prop where
  known : Knows doc segment key ↔ Knows doc' segment key
  wellTyped : WellTypedAt doc segment key
  wellTyped' : WellTypedAt doc' segment key
  entries : ∀ entry, GivesEntry doc segment key entry ↔ GivesEntry doc' segment key entry

theorem Answers.mem_iff {entries : List SupportEntry} (h : Answers doc segment key entries)
    (entry : SupportEntry) : entry ∈ entries ↔ GivesEntry doc segment key entry := by
  obtain ⟨records, hsorted, hget, hgives⟩ := h
  have hmem : ∀ source record, (source, record) ∈ records ↔
      HasRecord doc segment key source record := fun source record => by
    rw [← hget, Table.get?_eq_some_iff (Table.names_nodup hsorted)]
  constructor
  · intro hentry
    obtain ⟨⟨source, record⟩, hrecord, hgive⟩ := exists_left_of_forall₂ hgives hentry
    exact ⟨source, record, (hmem source record).mp hrecord, hgive⟩
  · rintro ⟨source, record, hrecord, hgive⟩
    obtain ⟨entry', hentry', hgive'⟩ :=
      exists_left_of_forall₂ hgives.flip ((hmem source record).mpr hrecord)
    exact hgive.unique hgive' ▸ hentry'

theorem sameEntries_of_entries {document document' : MatrixDocument} (h : doc.Ordered)
    (h' : doc'.Ordered) (hd : ofJson doc = .ok document) (hd' : ofJson doc' = .ok document')
    {entries entries' : List SupportEntry}
    (he : document.entries segment key = .ok (some entries))
    (he' : document'.entries segment key = .ok (some entries'))
    (hsame : ∀ entry, entry ∈ entries ↔ entry ∈ entries') : SameEntries doc doc' segment key := by
  obtain ⟨hknows, htyped, hanswers⟩ := (entries_eq_some_iff h hd).mp he
  obtain ⟨hknows', htyped', hanswers'⟩ := (entries_eq_some_iff h' hd').mp he'
  refine ⟨iff_of_true hknows hknows', htyped, htyped', fun entry => ?_⟩
  rw [← hanswers.mem_iff, ← hanswers'.mem_iff, hsame]

/-- Documents that say the same of a trait have no entries for it, or entries that resolve to the
same operations. -/
theorem SameEntries.entries_cases {document document' : MatrixDocument} (h : doc.Ordered)
    (h' : doc'.Ordered) (hd : ofJson doc = .ok document) (hd' : ofJson doc' = .ok document')
    (hsame : SameEntries doc doc' segment key) (rules : SupportRules) :
    (document.entries segment key = .ok none ∧ document'.entries segment key = .ok none) ∨
      ∃ entries entries', document.entries segment key = .ok (some entries) ∧
        document'.entries segment key = .ok (some entries') ∧
        rules.resolve entries = rules.resolve entries' := by
  by_cases hknows : Knows doc segment key
  case neg =>
    exact .inl ⟨(entries_eq_none_iff hd).mpr hknows,
      (entries_eq_none_iff hd').mpr fun hk => hknows (hsame.known.mpr hk)⟩
  obtain ⟨entries, he⟩ := (exists_entries_iff h hd hknows).mpr hsame.wellTyped
  obtain ⟨entries', he'⟩ :=
    (exists_entries_iff h' hd' (hsame.known.mp hknows)).mpr hsame.wellTyped'
  refine .inr ⟨entries, entries', he, he', rules.resolve_eq_of_mem_iff fun entry => ?_⟩
  have hanswers := ((entries_eq_some_iff h hd).mp he).2.2
  have hanswers' := ((entries_eq_some_iff h' hd').mp he').2.2
  rw [hanswers.mem_iff, hanswers'.mem_iff, hsame.entries]

end MatrixDocument

namespace Conversion

open MatrixDocument in
/-- Two matrices give the same conversion, with its result or error and all that it reports, if they
say the same of every declared trait with operators. What else is in them does not matter. -/
theorem run_depends_on_entry_sets (mode : Mode) (t : AdminType) (source : List Char)
    {doc doc' : Json} (h : doc.Ordered) (h' : doc'.Ordered) {document document' : MatrixDocument}
    (hd : ofJson doc = .ok document) (hd' : ofJson doc' = .ok document')
    (hsame : ∀ d ∈ KeyMap.declared t source, d.operators.isEmpty = false →
      SameEntries doc doc' d.segment d.supportKey) (owner owner' : AdminType) :
    run ⟨mode, t, document.matrix owner⟩ source =
      run ⟨mode, t, document'.matrix owner'⟩ source := by
  refine run_congr fun d hdeclared => ?_
  rw [support_eq, support_eq]
  cases hops : d.operators.isEmpty with
  | true => rfl
  | false =>
    rcases (hsame d hdeclared hops).entries_cases h h' hd hd' t.supportRules with
      ⟨hnone, hnone'⟩ | ⟨entries, entries', hsome, hsome', hresolve⟩
    · simp only [entries_matrix hnone owner, entries_matrix hnone' owner']
    · simp only [entries_matrix hsome owner, entries_matrix hsome' owner', hresolve]

def ownerKeyMap : List Char :=
  "USER_BASE_SEGMENT_MAP
  \x7b\"base:owner\", \"owner\", TRAIT_TYPE_STRING, \x7btrue, false, false, true\x7d\x7d".toList

def plainMatrix : MatrixDocument :=
  [("base", [("owner", .object [("racf", .object [("alt", .bool true), ("extract", .bool true)])])])]

def crowdedMatrix : MatrixDocument :=
  [("base", [
    ("name", .object [("racf", .object [("extract", .null)])]),
    ("owner", .object [
      ("first", .object [("add", .bool false), ("alter", .bool true), ("extract", .bool true)]),
      ("note", .string "structural"),
      ("second", .object [("alt", .bool true), ("extract", .bool true), ("size", .null)])])])]

open MatrixDocument in
theorem run_depends_on_entry_sets_crowded :
    let plain : Json := .object (plainMatrix.mapValues .object)
    let crowded : Json := .object (crowdedMatrix.mapValues .object)
    plain.Ordered ∧ crowded.Ordered ∧ ofJson plain = .ok plainMatrix ∧
      ofJson crowded = .ok crowdedMatrix ∧ SameEntries plain crowded "base" "owner" ∧
      run ⟨.strict, ⟨"user"⟩, plainMatrix.matrix ⟨"user"⟩⟩ ownerKeyMap =
        run ⟨.strict, ⟨"user"⟩, crowdedMatrix.matrix ⟨"user"⟩⟩ ownerKeyMap := by
  intro plain crowded
  have hplain : plain.Ordered := by decide
  have hcrowded : crowded.Ordered := by decide
  have hread : ofJson plain = .ok plainMatrix := rfl
  have hread' : ofJson crowded = .ok crowdedMatrix := rfl
  have hone : plainMatrix.entries "base" "owner" = .ok (some [⟨false, true, true⟩]) := rfl
  have htwo : crowdedMatrix.entries "base" "owner" =
      .ok (some [⟨false, true, true⟩, ⟨false, true, true⟩]) := rfl
  have hsame : SameEntries plain crowded "base" "owner" :=
    sameEntries_of_entries hplain hcrowded hread hread' hone htwo (by simp)
  have hdeclared : KeyMap.declared ⟨"user"⟩ ownerKeyMap =
      [⟨"base", "base:owner", "owner", ⟨"STRING"⟩, ⟨true, false, false, true⟩⟩] := by
    decide +kernel
  refine ⟨hplain, hcrowded, hread, hread', hsame, ?_⟩
  refine run_depends_on_entry_sets .strict ⟨"user"⟩ ownerKeyMap hplain hcrowded hread hread' ?_ _ _
  intro d hd _
  rw [hdeclared] at hd
  cases List.mem_singleton.mp hd
  exact hsame

end Conversion

end TraitSchema
