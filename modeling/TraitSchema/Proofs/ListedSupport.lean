import TraitSchema.Proofs.AcceptedDeclarations
import TraitSchema.Proofs.SupportLookup

namespace TraitSchema

/-- Of what is made of the pairs of a table, a filter that passes one name alone leaves what is made
of the pair of that name. -/
theorem Table.filter_flatMap {α β : Type} {t : Table α} (hn : t.names.Nodup)
    {make : String × α → List β} {pass : β → Bool} {name : String}
    (hpass : ∀ pair ∈ t, pair.1 ≠ name → (make pair).filter pass = []) :
    (t.flatMap make).filter pass =
      (t.get? name).elim [] fun value => (make (name, value)).filter pass := by
  induction t with
  | nil => rfl
  | cons pair t ih =>
    obtain ⟨hfirst, hrest⟩ := List.nodup_cons.mp hn
    rw [List.flatMap_cons, List.filter_append, Table.get?,
      ih hrest fun pair hp => hpass pair (List.mem_cons_of_mem _ hp)]
    split
    next he =>
      subst he
      rw [Table.get?_eq_none_iff.mpr hfirst]
      exact List.append_nil _
    next hne =>
      rw [hpass pair List.mem_cons_self (Ne.symm hne)]
      rfl

def SupportRow.isFor (segment key : String) (row : SupportRow) : Bool :=
  row.segment == segment && row.key == key

theorem SupportMatrix.entries_ofRows (rows : List SupportRow) (segment key : String) :
    (ofRows rows).entries segment key =
      if rows.filter (SupportRow.isFor segment key) = [] then .ok none
      else .ok (some ((rows.filter (SupportRow.isFor segment key)).map (·.entry))) := by
  unfold ofRows
  dsimp only
  split
  next hnil => exact (if_pos hnil).symm
  next hfound => exact (if_neg hfound).symm

namespace MatrixDocument

variable {doc : Json} {document : MatrixDocument} {segment key : String}

/-- The entries of the records among the sources of a trait, in their order. -/
def listed (sources : Table Json) : List SupportEntry :=
  (recordsOf sources).filterMap fun source =>
    (SupportEntry.ofMembers (source.2.members?.getD [])).toOption

def rowsOf (segment : String) (trait : String × Json) : List SupportRow :=
  (listed (trait.2.members?.getD [])).map fun entry => ⟨segment, trait.1, entry⟩

/-- The rows of all records of a document, by segment, by key and by source. -/
def rows (document : MatrixDocument) : List SupportRow :=
  document.flatMap fun part => part.2.flatMap (rowsOf part.1)

/-- The matrix that answers from the list of a document's records. -/
def listedMatrix (document : MatrixDocument) : SupportMatrix := .ofRows (rows document)

/-- The document knows the trait and has no records of operations for it. -/
def Unrecorded (doc : Json) (segment key : String) : Prop :=
  Knows doc segment key ∧ ∀ source record, ¬ HasRecord doc segment key source record

theorem filter_rowsOf_self (segment key : String) (value : Json) :
    (rowsOf segment (key, value)).filter (SupportRow.isFor segment key) = rowsOf segment (key, value) := by
  refine List.filter_eq_self.mpr fun row hrow => ?_
  obtain ⟨entry, -, rfl⟩ := List.mem_map.mp hrow
  simp [SupportRow.isFor]

theorem filter_rowsOf_other {part : String} {trait : String × Json}
    (hne : part ≠ segment ∨ trait.1 ≠ key) :
    (rowsOf part trait).filter (SupportRow.isFor segment key) = [] := by
  refine List.filter_eq_nil_iff.mpr fun row hrow => ?_
  obtain ⟨entry, -, rfl⟩ := List.mem_map.mp hrow
  simpa [SupportRow.isFor, Classical.or_iff_not_imp_left] using hne

theorem names_nodup (h : doc.Ordered) (hd : ofJson doc = .ok document) : document.names.Nodup := by
  obtain rfl := ofJson_eq_ok_iff.mp hd
  have hnames : (document.mapValues Json.object).names = document.names := by
    simp [Table.names, Table.mapValues]
  exact hnames ▸ Table.names_nodup h.1

theorem keys_nodup (h : doc.Ordered) (hd : ofJson doc = .ok document) {keys : Table Json}
    (hk : document.get? segment = some keys) : keys.names.Nodup := by
  obtain rfl := ofJson_eq_ok_iff.mp hd
  have hget : (Json.object (document.mapValues .object)).get? segment = some (.object keys) :=
    (Table.get?_mapValues _ _ _).trans (by rw [hk, Option.map_some])
  exact Table.names_nodup (h.get? hget).1

theorem filter_rows (h : doc.Ordered) (hd : ofJson doc = .ok document) :
    (rows document).filter (SupportRow.isFor segment key) =
      (doc.at? [segment, key]).elim [] fun value => rowsOf segment (key, value) := by
  rw [rows, Table.filter_flatMap (names_nodup h hd), at?_of_ofJson hd]
  · cases hsegment : document.get? segment with
    | none => rfl
    | some keys =>
      refine (Table.filter_flatMap (keys_nodup h hd hsegment) fun trait _ hne =>
        filter_rowsOf_other (.inr hne)).trans ?_
      simp only [filter_rowsOf_self, Option.bind_some]
  · intro part _ hne
    rw [List.filter_flatMap, List.flatMap_eq_nil_iff]
    exact fun trait _ => filter_rowsOf_other (.inl hne)

section WellTyped

variable (h : doc.Ordered) (hd : ofJson doc = .ok document)
  (htyped : WellTypedAt doc segment key)

include h hd htyped

theorem entries_eq_listed {sources : Table Json}
    (hs : doc.at? [segment, key] = some (.object sources)) :
    document.entries segment key = .ok (some (listed sources)) := by
  obtain ⟨entries, he⟩ := (exists_entries_iff h hd ⟨sources, hs⟩).mpr htyped
  have hmap := filterMap_toOption_of_mapM ((entries_eq_some_iff_mapM hd hs).mp he)
  have hread : ∀ source : String × Json, (readRecord segment key source).toOption =
      (SupportEntry.ofMembers (source.2.members?.getD [])).toOption := by
    intro source
    rw [readRecord]
    cases SupportEntry.ofMembers (source.2.members?.getD []) <;> rfl
  simp only [hread] at hmap
  rw [he, listed, hmap]

theorem listed_eq_nil_iff {sources : Table Json}
    (hs : doc.at? [segment, key] = some (.object sources)) :
    listed sources = [] ↔ Unrecorded doc segment key := by
  have hsorted : Table.Sorted sources := (h.at? hs).1
  have hanswers := ((entries_eq_some_iff h hd).mp (entries_eq_listed h hd htyped hs)).2.2
  have hlength := ((answers_iff hs hsorted).mp hanswers).length_eq
  rw [← List.length_eq_zero_iff, ← hlength, List.length_eq_zero_iff,
    List.eq_nil_iff_forall_not_mem, Unrecorded, and_iff_right ⟨sources, hs⟩]
  simp only [Prod.forall, mem_recordsOf hs hsorted]

/-- The list knows a trait if the document has a record for it. -/
theorem entries_rows_cases :
    Unrecorded doc segment key ∧ document.entries segment key = .ok (some []) ∧
        (listedMatrix document).entries segment key = .ok none ∨
      ¬ Unrecorded doc segment key ∧ ∃ answer, document.entries segment key = .ok answer ∧
        (listedMatrix document).entries segment key = .ok answer := by
  rw [listedMatrix, SupportMatrix.entries_ofRows, filter_rows h hd]
  by_cases hknows : Knows doc segment key
  case neg =>
    refine .inr ⟨fun hu => hknows hu.1, none, (entries_eq_none_iff hd).mpr hknows, if_pos ?_⟩
    cases hat : doc.at? [segment, key] with
    | none => rfl
    | some value =>
      cases value with
      | object sources => exact absurd ⟨sources, hat⟩ hknows
      | _ => rfl
  obtain ⟨sources, hs⟩ := hknows
  have hrows : (rowsOf segment (key, .object sources)).map (·.entry) = listed sources :=
    List.map_map.trans (List.map_id _)
  rw [hs, Option.elim_some, entries_eq_listed h hd htyped hs]
  by_cases hnil : listed sources = []
  · refine .inl ⟨(listed_eq_nil_iff h hd htyped hs).mp hnil, by rw [hnil], if_pos ?_⟩
    exact List.map_eq_nil_iff.mp (hrows.trans hnil)
  · refine .inr ⟨fun hu => hnil ((listed_eq_nil_iff h hd htyped hs).mpr hu), _, rfl, ?_⟩
    rw [if_neg fun hempty => hnil (hrows ▸ List.map_eq_nil_iff.mpr hempty), hrows]

end WellTyped

/-- Records are well typed everywhere in a document if each of its objects can be read as one. -/
theorem wellTypedAt_of_isOk (hd : ofJson doc = .ok document)
    (hread : ∀ part ∈ document, ∀ trait ∈ part.2, ∀ source ∈ trait.2.members?.getD [],
      (SupportEntry.ofMembers (source.2.members?.getD [])).isOk = true) :
    WellTypedAt doc segment key := by
  intro source record hrecord
  obtain ⟨sources, hs⟩ := hrecord.knows
  obtain ⟨hget, hrecord⟩ := (hasRecord_iff hs).mp hrecord
  obtain ⟨members, rfl⟩ := hrecord.eq_object
  rw [at?_of_ofJson hd] at hs
  obtain ⟨keys, hkeys, htrait⟩ := Option.bind_eq_some_iff.mp hs
  have hok := hread _ (Table.mem_of_get? hkeys) _ (Table.mem_of_get? htrait) _
    (Table.mem_of_get? hget)
  refine SupportEntry.exists_ofMembers_iff.mp ?_
  cases hm : SupportEntry.ofMembers members with
  | ok entry => exact ⟨entry, rfl⟩
  | error fault =>
    have hfault : (SupportEntry.ofMembers members).isOk = true := hok
    rw [hm] at hfault
    cases hfault

section Classified

variable (h : doc.Ordered) (hd : ofJson doc = .ok document)
  (htyped : ∀ segment key, WellTypedAt doc segment key) (owner : AdminType) (rules : SupportRules)
  {d : Declaration}

include h hd htyped

theorem classify_of_unrecorded (hops : d.operators.isEmpty = false)
    (hu : Unrecorded doc d.segment d.supportKey) :
    classify rules (document.matrix owner) d = .ok (.supported .empty) ∧
      classify rules (listedMatrix document) d = .ok .unknown := by
  rcases entries_rows_cases h hd (htyped d.segment d.supportKey) with
    ⟨-, hnone, hunknown⟩ | ⟨hrecorded, -⟩
  · rw [classify, classify, entries_matrix hnone, hunknown, hops]
    exact ⟨rfl, rfl⟩
  · exact absurd hu hrecorded

theorem classify_of_recorded
    (hr : ¬ (d.operators.isEmpty = false ∧ Unrecorded doc d.segment d.supportKey)) :
    ∃ answer, classify rules (document.matrix owner) d = .ok answer ∧
      classify rules (listedMatrix document) d = .ok answer := by
  rw [classify, classify]
  cases hops : d.operators.isEmpty with
  | true => exact ⟨_, rfl, rfl⟩
  | false =>
    rcases entries_rows_cases h hd (htyped d.segment d.supportKey) with
      ⟨hu, -⟩ | ⟨-, answer, hanswer, hanswer'⟩
    · exact absurd ⟨hops, hu⟩ hr
    · rw [entries_matrix hanswer, hanswer']
      exact ⟨_, rfl, rfl⟩

end Classified

end MatrixDocument

namespace Conversion

open MatrixDocument

section Listed

variable {doc : Json} {document : MatrixDocument} (h : doc.Ordered)
  (hd : ofJson doc = .ok document) (htyped : ∀ segment key, WellTypedAt doc segment key)
  {mode : Mode} {t owner : AdminType} {d : Declaration}

include h hd htyped

theorem support_listed_cases :
    support ⟨mode, t, document.matrix owner⟩ d = support ⟨mode, t, listedMatrix document⟩ d ∨
      support ⟨mode, t, document.matrix owner⟩ d = pure .empty ∧
        support ⟨mode, t, listedMatrix document⟩ d =
          mode.violation (.missingEntry t d.segment d.supportKey) (.missingEntry d.name) >>=
            fun _ => pure .empty := by
  simp only [support]
  by_cases hu : d.operators.isEmpty = false ∧ Unrecorded doc d.segment d.supportKey
  · obtain ⟨hempty, hunknown⟩ := classify_of_unrecorded h hd htyped owner t.supportRules hu.1 hu.2
    rw [hempty, hunknown]
    exact .inr ⟨rfl, rfl⟩
  · obtain ⟨answer, hanswer, hanswer'⟩ := classify_of_recorded h hd htyped owner t.supportRules hu
    rw [hanswer, hanswer']
    exact .inl rfl

theorem outcome_support_listed :
    (support ⟨.lenient, t, document.matrix owner⟩ d).outcome =
      (support ⟨.lenient, t, listedMatrix document⟩ d).outcome := by
  rcases support_listed_cases h hd htyped with hsame | ⟨hempty, hunknown⟩
  · rw [hsame]
  · rw [hempty, hunknown]
    rfl

theorem support_listed_of_accepts (ha : Accepts ⟨.strict, t, listedMatrix document⟩ d) :
    support ⟨.strict, t, document.matrix owner⟩ d =
      support ⟨.strict, t, listedMatrix document⟩ d := by
  rcases support_listed_cases h hd htyped with hsame | ⟨-, hunknown⟩
  · exact hsame
  · rw [Accepts, hunknown] at ha
    cases ha.1

/-- A lenient conversion succeeds with both matrices, with the same result. -/
theorem lenient_run_listed (source : List Char) :
    ∃ result, (run ⟨.lenient, t, document.matrix owner⟩ source).outcome = .ok result ∧
      (run ⟨.lenient, t, listedMatrix document⟩ source).outcome = .ok result := by
  have hsame : (run ⟨.lenient, t, document.matrix owner⟩ source).outcome =
      (run ⟨.lenient, t, listedMatrix document⟩ source).outcome :=
    outcome_run_congr fun d _ => outcome_support_listed h hd htyped
  have hlisted := outcome_run_lenient (c := ⟨.lenient, t, listedMatrix document⟩) rfl source
  have hclean : ∀ d ∈ KeyMap.declared t source,
      fault? ⟨.lenient, t, listedMatrix document⟩ d = none :=
    fun d _ => fault?_ofRows .lenient t (rows document) d
  rw [List.findSome?_eq_none_iff.mpr hclean] at hlisted
  exact ⟨_, hsame.trans hlisted, hlisted⟩

/-- A strict conversion that succeeds with the list is the same with the document. -/
theorem strict_run_listed {source : List Char} {result : Fragment × Nat}
    (hrun : (run ⟨.strict, t, listedMatrix document⟩ source).outcome = .ok result) :
    run ⟨.strict, t, document.matrix owner⟩ source =
      run ⟨.strict, t, listedMatrix document⟩ source :=
  run_congr fun d hdeclared =>
    support_listed_of_accepts h hd htyped (accepts_of_run hrun d hdeclared)

end Listed

/-- A document whose records are all well typed and the list of these records say the same of every
declared trait, but for one with operators for which the document has an object without records: for
it the document gives no operations, and the list does not know it. A lenient conversion has the same
result with both, and a strict one that succeeds with the list has that result with the document. -/
theorem list_agrees_with_document {doc : Json} (h : doc.Ordered) {document : MatrixDocument}
    (hd : ofJson doc = .ok document) (htyped : ∀ segment key, WellTypedAt doc segment key)
    (owner : AdminType) :
    (∀ rules d, d.operators.isEmpty = false → Unrecorded doc d.segment d.supportKey →
      classify rules (document.matrix owner) d = .ok (.supported .empty) ∧
        classify rules (listedMatrix document) d = .ok .unknown) ∧
    (∀ rules d, ¬ (d.operators.isEmpty = false ∧ Unrecorded doc d.segment d.supportKey) →
      ∃ answer, classify rules (document.matrix owner) d = .ok answer ∧
        classify rules (listedMatrix document) d = .ok answer) ∧
    (∀ t source, ∃ result, (run ⟨.lenient, t, document.matrix owner⟩ source).outcome = .ok result ∧
      (run ⟨.lenient, t, listedMatrix document⟩ source).outcome = .ok result) ∧
    ∀ t source result, (run ⟨.strict, t, listedMatrix document⟩ source).outcome = .ok result →
      (run ⟨.strict, t, document.matrix owner⟩ source).outcome = .ok result := by
  refine ⟨fun rules d => classify_of_unrecorded h hd htyped owner rules,
    fun rules d => classify_of_recorded h hd htyped owner rules,
    fun t => lenient_run_listed h hd htyped, fun t source result hrun => ?_⟩
  rw [strict_run_listed h hd htyped hrun]
  exact hrun

def halfRecordedMatrix : MatrixDocument :=
  [("base", [
    ("name", .object [("layout", .object [("offset", .null)])]),
    ("owner", .object [("layout", .object [("offset", .null)]),
      ("racf", .object [("alter", .bool true), ("extract", .bool true)])])])]

def recordedKeyMap : List Char :=
  "USER_BASE_SEGMENT_MAP
  \x7b\"base:owner\", \"owner\", TRAIT_TYPE_STRING, \x7btrue, false, false, true\x7d\x7d".toList

def unrecordedKeyMap : List Char :=
  "USER_BASE_SEGMENT_MAP
  \x7b\"base:name\", \"name\", TRAIT_TYPE_STRING, \x7btrue, false, false, true\x7d\x7d".toList

theorem list_agrees_with_document_half_recorded :
    let matrix := halfRecordedMatrix.matrix ⟨"user"⟩
    let list := listedMatrix halfRecordedMatrix
    let name : Declaration := ⟨"base", "base:name", "name", ⟨"STRING"⟩, ⟨true, false, false, true⟩⟩
    rows halfRecordedMatrix = [⟨"base", "owner", ⟨false, true, true⟩⟩] ∧
      classify (AdminType.supportRules ⟨"user"⟩) matrix name = .ok (.supported .empty) ∧
      classify (AdminType.supportRules ⟨"user"⟩) list name = .ok .unknown ∧
      (∃ result, (run ⟨.lenient, ⟨"user"⟩, matrix⟩ unrecordedKeyMap).outcome = .ok result ∧
        (run ⟨.lenient, ⟨"user"⟩, list⟩ unrecordedKeyMap).outcome = .ok result) ∧
      ∃ result, (run ⟨.strict, ⟨"user"⟩, list⟩ recordedKeyMap).outcome = .ok result ∧
        (run ⟨.strict, ⟨"user"⟩, matrix⟩ recordedKeyMap).outcome = .ok result := by
  intro matrix list name
  have hordered : (Json.object (halfRecordedMatrix.mapValues .object)).Ordered := by decide
  have hread : ofJson (.object (halfRecordedMatrix.mapValues .object)) = .ok halfRecordedMatrix := rfl
  have htyped : ∀ segment key,
      WellTypedAt (.object (halfRecordedMatrix.mapValues .object)) segment key :=
    fun segment key => wellTypedAt_of_isOk hread (by decide)
  obtain ⟨hunrecorded, -, hlenient, hstrict⟩ := list_agrees_with_document hordered hread htyped ⟨"user"⟩
  have hkey : name.supportKey = "name" := by decide +kernel
  have hname : Unrecorded (.object (halfRecordedMatrix.mapValues .object)) name.segment
      name.supportKey := hkey ▸ (listed_eq_nil_iff hordered hread (htyped _ _) rfl).mp rfl
  obtain ⟨hempty, hunknown⟩ := hunrecorded (AdminType.supportRules ⟨"user"⟩) name rfl hname
  have hok : (run ⟨.strict, ⟨"user"⟩, list⟩ recordedKeyMap).outcome.isOk = true := by
    decide +kernel
  refine ⟨rfl, hempty, hunknown, hlenient _ _, ?_⟩
  cases hrun : (run ⟨.strict, ⟨"user"⟩, list⟩ recordedKeyMap).outcome with
  | ok result => exact ⟨result, rfl, hstrict _ _ _ hrun⟩
  | error e =>
    rw [hrun] at hok
    cases hok

end Conversion

end TraitSchema
