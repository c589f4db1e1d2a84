import TraitSchema.Proofs.FlagRecords
import TraitSchema.Proofs.UnionPaths

namespace TraitSchema

/-- Steps over a table fail as the step of the least name that fails. -/
theorem Table.mapM_eq_error_iff {ε α β : Type} {e : ε} {t : Table α} (ht : t.Sorted) {f : String × α → Except ε β} :
    t.mapM f = .error e ↔
      ∃ name value, t.get? name = some value ∧ f (name, value) = .error e ∧
        ∀ other < name, ∀ v, t.get? other = some v → ∃ z, f (other, v) = .ok z := by
  simp only [Table.get?_eq_some_iff (Table.names_nodup ht)]
  rw [TraitSchema.mapM_eq_error_iff]
  constructor
  · rintro ⟨front, ⟨name, value⟩, back, rfl, hfront, hx⟩
    refine ⟨name, value, List.mem_append_right front List.mem_cons_self, hx,
      fun other hlt v hv => hfront _ ?_⟩
    exact mem_front_of_lt (fun _ _ => String.lt_asymm) ht hv hlt
  · rintro ⟨name, value, hmem, hx, hless⟩
    obtain ⟨front, back, rfl⟩ := List.append_of_mem hmem
    refine ⟨front, (name, value), back, rfl, fun y hy => ?_, hx⟩
    have hlt : y.1 < name := (List.pairwise_append.mp ht).2.2 y hy _ List.mem_cons_self
    exact hless y.1 hlt y.2 (List.mem_append_left _ hy)

namespace MatrixDocument

variable {doc : Json} {document : MatrixDocument} {segment key : String}

theorem entries_matrix {answer : Option (List SupportEntry)}
    (h : document.entries segment key = .ok answer) (owner : AdminType) :
    (document.matrix owner).entries segment key = .ok answer :=
  congrArg (Except.mapError (MatrixError.mk owner)) h

def readSegment (pair : String × Json) : Except MatrixFault (String × Table Json) :=
  match pair.2 with
  | .object keys => .ok (pair.1, keys)
  | _ => .error (.segmentNotObject pair.1)

theorem ofJson_object (segments : Table Json) :
    ofJson (.object segments) = segments.mapM readSegment := rfl

theorem readSegment_eq_ok_iff {pair : String × Json} {read : String × Table Json} :
    readSegment pair = .ok read ↔ pair = (read.1, .object read.2) := by
  obtain ⟨segment, value⟩ := pair
  obtain ⟨segment', keys⟩ := read
  unfold readSegment
  cases value <;> simp

theorem readSegment_eq_error_iff {pair : String × Json} {fault : MatrixFault} :
    readSegment pair = .error fault ↔
      pair.2.isObject = false ∧ fault = .segmentNotObject pair.1 := by
  obtain ⟨segment, value⟩ := pair
  unfold readSegment
  cases value <;> simp [Json.isObject, Json.members?, eq_comm]

/-- A matrix is what it is read from, an object of objects. -/
theorem ofJson_eq_ok_iff :
    ofJson doc = .ok document ↔ doc = .object (document.mapValues .object) := by
  cases doc with
  | object segments =>
    rw [ofJson_object, mapM_eq_ok_iff, Json.object.injEq, Table.mapValues,
      ← List.forall₂_eq_eq_eq, List.forall₂_map_right_iff]
    simp only [readSegment_eq_ok_iff]
  | _ => simp [ofJson]

theorem exists_readSegment_iff {pair : String × Json} :
    (∃ read, readSegment pair = .ok read) ↔ pair.2.isObject = true := by
  obtain ⟨segment, value⟩ := pair
  unfold readSegment
  cases value <;> simp [Json.isObject, Json.members?]

/-- What is no object of objects is rejected, for its least segment that is no object. -/
theorem ofJson_eq_error_iff (h : doc.Ordered) {fault : MatrixFault} :
    ofJson doc = .error fault ↔
      doc.isObject = false ∧ fault = .notObject ∨
      ∃ segment value, doc.get? segment = some value ∧ value.isObject = false ∧
        fault = .segmentNotObject segment ∧
        ∀ other < segment, ∀ v, doc.get? other = some v → v.isObject = true := by
  by_cases hdoc : doc.isObject = true
  · obtain ⟨segments, rfl⟩ := Json.eq_object_of_isObject hdoc
    rw [ofJson_object, Table.mapM_eq_error_iff h.1]
    simp only [hdoc, exists_readSegment_iff, readSegment_eq_error_iff, and_assoc,
      Bool.true_eq_false, false_and, false_or]
    rfl
  · have hnone : ∀ key, doc.get? key = none :=
      Json.get?_eq_none_of_not_isObject (Bool.not_eq_true _ ▸ hdoc)
    have hfault : ofJson doc = .error .notObject := by
      cases doc with
      | object segments => exact absurd rfl hdoc
      | _ => rfl
    rw [hfault]
    constructor
    · intro he
      exact .inl ⟨Bool.not_eq_true _ ▸ hdoc, (Except.error.inj he).symm⟩
    · rintro (⟨-, rfl⟩ | ⟨segment, value, hget, -⟩)
      · rfl
      · cases (hnone segment).symm.trans hget

theorem exists_ofJson_iff (h : doc.Ordered) :
    (∃ document, ofJson doc = .ok document) ↔ doc.isObject = true ∧
      ∀ segment value, doc.get? segment = some value → value.isObject = true := by
  constructor
  · rintro ⟨document, hd⟩
    rw [ofJson_eq_ok_iff] at hd
    subst hd
    refine ⟨rfl, fun segment value hget => ?_⟩
    have hmap : (document.get? segment).map Json.object = some value :=
      (Table.get?_mapValues _ _ _).symm.trans hget
    obtain ⟨keys, -, rfl⟩ := Option.map_eq_some_iff.mp hmap
    rfl
  · rintro ⟨hobject, hsegments⟩
    cases hd : ofJson doc with
    | ok document => exact ⟨document, rfl⟩
    | error fault =>
      rcases (ofJson_eq_error_iff h).mp hd with ⟨hno, -⟩ | ⟨segment, value, hget, hno, -⟩
      · simp [hobject] at hno
      · simp [hsegments segment value hget] at hno

theorem at?_of_ofJson (hd : ofJson doc = .ok document) (segment key : String) :
    doc.at? [segment, key] = (document.get? segment).bind fun keys => Table.get? keys key := by
  have hget : (Json.object (document.mapValues .object)).get? segment =
      (document.get? segment).map .object := Table.get?_mapValues _ _ _
  rw [ofJson_eq_ok_iff.mp hd, Json.at?, hget, Option.bind_map]
  congr 1
  funext keys
  exact Option.bind_fun_some _

/-- The document knows the trait: it holds an object for the segment and key. -/
def Knows (doc : Json) (segment key : String) : Prop :=
  ∃ sources, doc.at? [segment, key] = some (.object sources)

/-- The document has this record of operations for the segment and key, under the source. -/
def HasRecord (doc : Json) (segment key source : String) (record : Json) : Prop :=
  doc.at? [segment, key, source] = some record ∧ SupportEntry.IsRecord record

/-- All records of operations for the segment and key are well typed. -/
def WellTypedAt (doc : Json) (segment key : String) : Prop :=
  ∀ source record, HasRecord doc segment key source record → SupportEntry.WellTyped record

/-- The answer has one entry for each record of operations, in the order of their sources. -/
def Answers (doc : Json) (segment key : String) (entries : List SupportEntry) : Prop :=
  ∃ records : Table Json, records.Sorted ∧
    (∀ source record, records.get? source = some record ↔
      HasRecord doc segment key source record) ∧
    List.Forall₂ (fun pair entry => SupportEntry.Gives pair.2 entry) records entries

/-- The fault is that of the least source whose record is not well typed. -/
def FaultAt (doc : Json) (segment key : String) (fault : MatrixFault) : Prop :=
  ∃ source record flagFault, HasRecord doc segment key source record ∧
    SupportEntry.FirstWrong record flagFault ∧
    fault = .badRecord segment key source flagFault ∧
    ∀ other < source, ∀ r, HasRecord doc segment key other r → SupportEntry.WellTyped r

theorem hasRecord_iff {sources : Table Json} (hs : doc.at? [segment, key] = some (.object sources))
    {source : String} {record : Json} :
    HasRecord doc segment key source record ↔
      sources.get? source = some record ∧ SupportEntry.IsRecord record := by
  have hat : doc.at? [segment, key, source] = sources.get? source := by
    refine (Json.at?_concat doc [segment, key] source).trans ?_
    rw [hs]
    rfl
  rw [HasRecord, hat]

theorem HasRecord.knows {source : String} {record : Json}
    (h : HasRecord doc segment key source record) : Knows doc segment key := by
  have hat := (Json.at?_concat doc [segment, key] source).symm.trans h.1
  obtain ⟨value, hvalue, hget⟩ := Option.bind_eq_some_iff.mp hat
  obtain ⟨sources, rfl⟩ := Json.eq_object_of_isObject (Json.isObject_of_get? hget)
  exact ⟨sources, hvalue⟩

def recordsOf (sources : Table Json) : Table Json :=
  sources.filter fun source => SupportEntry.isRecord source.2

def readRecord (segment key : String) (source : String × Json) : Except MatrixFault SupportEntry :=
  (SupportEntry.ofMembers (source.2.members?.getD [])).mapError (.badRecord segment key source.1)

section Sources

variable {sources : Table Json} (hs : doc.at? [segment, key] = some (.object sources))
  (hsorted : sources.Sorted)

include hsorted in
theorem sorted_recordsOf : (recordsOf sources).Sorted := List.Pairwise.filter _ hsorted

include hs hsorted

/-- The records of operations for a trait are those among its sources. -/
theorem get?_recordsOf {source : String} {record : Json} :
    (recordsOf sources).get? source = some record ↔ HasRecord doc segment key source record := by
  rw [hasRecord_iff hs, Table.get?_eq_some_iff (Table.names_nodup (sorted_recordsOf hsorted)),
    Table.get?_eq_some_iff (Table.names_nodup hsorted), recordsOf, List.mem_filter,
    SupportEntry.isRecord_iff]

theorem mem_recordsOf {source : String} {record : Json} :
    (source, record) ∈ recordsOf sources ↔ HasRecord doc segment key source record := by
  rw [← get?_recordsOf hs hsorted,
    Table.get?_eq_some_iff (Table.names_nodup (sorted_recordsOf hsorted))]

theorem wellTypedAt_iff :
    WellTypedAt doc segment key ↔ ∀ pair ∈ recordsOf sources, SupportEntry.WellTyped pair.2 := by
  simp only [WellTypedAt, ← mem_recordsOf hs hsorted, Prod.forall]

theorem answers_iff {entries : List SupportEntry} :
    Answers doc segment key entries ↔
      List.Forall₂ (fun pair entry => SupportEntry.Gives pair.2 entry) (recordsOf sources)
        entries := by
  constructor
  · rintro ⟨records, hrecords, hget, hgives⟩
    have heq : records = recordsOf sources := by
      refine Table.eq_of_get?_eq hrecords (sorted_recordsOf hsorted) fun source => Option.ext ?_
      intro record
      rw [hget, get?_recordsOf hs hsorted]
    exact heq ▸ hgives
  · intro hgives
    exact ⟨_, sorted_recordsOf hsorted, fun _ _ => get?_recordsOf hs hsorted, hgives⟩

end Sources

section Records

variable {source : String} {record : Json} (hr : SupportEntry.IsRecord record)

include hr

theorem readRecord_eq_ok_iff {entry : SupportEntry} :
    readRecord segment key (source, record) = .ok entry ↔
      SupportEntry.WellTyped record ∧ SupportEntry.Gives record entry := by
  obtain ⟨members, rfl⟩ := hr.eq_object
  have hread : readRecord segment key (source, .object members) =
      (SupportEntry.ofMembers members).mapError (.badRecord segment key source) := rfl
  rw [← SupportEntry.ofMembers_eq_ok_iff, hread]
  cases SupportEntry.ofMembers members <;> simp [Except.mapError]

theorem exists_readRecord_iff :
    (∃ entry, readRecord segment key (source, record) = .ok entry) ↔
      SupportEntry.WellTyped record := by
  simp only [readRecord_eq_ok_iff hr]
  obtain ⟨members, rfl⟩ := hr.eq_object
  simp only [← SupportEntry.ofMembers_eq_ok_iff, SupportEntry.exists_ofMembers_iff]

theorem readRecord_eq_error_iff {fault : MatrixFault} :
    readRecord segment key (source, record) = .error fault ↔
      ∃ flagFault, SupportEntry.FirstWrong record flagFault ∧
        fault = .badRecord segment key source flagFault := by
  obtain ⟨members, rfl⟩ := hr.eq_object
  have hread : readRecord segment key (source, .object members) =
      (SupportEntry.ofMembers members).mapError (.badRecord segment key source) := rfl
  simp only [← SupportEntry.ofMembers_eq_error_iff, hread]
  cases SupportEntry.ofMembers members <;> simp [Except.mapError, eq_comm]

end Records

theorem entries_eq_of_at? (hd : ofJson doc = .ok document) {sources : Table Json}
    (hs : doc.at? [segment, key] = some (.object sources)) :
    document.entries segment key =
      some <$> (recordsOf sources).mapM (readRecord segment key) := by
  rw [at?_of_ofJson hd] at hs
  rw [entries, hs]
  rfl

theorem entries_eq_some_iff_mapM (hd : ofJson doc = .ok document) {sources : Table Json}
    (hs : doc.at? [segment, key] = some (.object sources)) {entries : List SupportEntry} :
    document.entries segment key = .ok (some entries) ↔
      (recordsOf sources).mapM (readRecord segment key) = .ok entries := by
  rw [entries_eq_of_at? hd hs]
  cases (recordsOf sources).mapM (readRecord segment key) <;> simp [Functor.map, Except.map]

/-- A trait that the document does not know has no entries, and it alone has none. -/
theorem entries_eq_none_iff (hd : ofJson doc = .ok document) :
    document.entries segment key = .ok none ↔ ¬ Knows doc segment key := by
  constructor
  · rintro h ⟨sources, hs⟩
    rw [entries_eq_of_at? hd hs] at h
    cases hr : (recordsOf sources).mapM (readRecord segment key) <;> rw [hr] at h <;> cases h
  · intro h
    have hat := at?_of_ofJson hd segment key
    rw [entries]
    split
    next sources hs => exact absurd ⟨sources, hat.trans hs⟩ h
    next => rfl

section Known

variable (h : doc.Ordered) (hd : ofJson doc = .ok document)

include h hd

theorem entries_eq_some_iff {entries : List SupportEntry} :
    document.entries segment key = .ok (some entries) ↔
      Knows doc segment key ∧ WellTypedAt doc segment key ∧ Answers doc segment key entries := by
  by_cases hknows : Knows doc segment key
  case neg =>
    rw [(entries_eq_none_iff hd).mpr hknows]
    exact iff_of_false (fun h => nomatch h) fun h => hknows h.1
  have ⟨sources, hs⟩ := hknows
  have hsorted : Table.Sorted sources := (h.at? hs).1
  have hrecords : ∀ pair ∈ recordsOf sources, SupportEntry.IsRecord pair.2 := fun pair hp =>
    ((mem_recordsOf hs hsorted).mp hp).2
  rw [entries_eq_some_iff_mapM hd hs, mapM_eq_ok_iff,
    forall₂_iff_of_forall_mem hrecords fun pair entry hr => readRecord_eq_ok_iff hr,
    List.forall₂_and_left, ← wellTypedAt_iff hs hsorted, ← answers_iff hs hsorted]
  exact (and_iff_right hknows).symm

theorem entries_eq_error_iff {fault : MatrixFault} :
    document.entries segment key = .error fault ↔ FaultAt doc segment key fault := by
  by_cases hknows : Knows doc segment key
  case neg =>
    rw [(entries_eq_none_iff hd).mpr hknows]
    refine iff_of_false (fun h => nomatch h) ?_
    rintro ⟨source, record, flagFault, hrecord, -⟩
    exact hknows hrecord.knows
  obtain ⟨sources, hs⟩ := hknows
  have hsorted : Table.Sorted sources := (h.at? hs).1
  have hmap : document.entries segment key = .error fault ↔
      (recordsOf sources).mapM (readRecord segment key) = .error fault := by
    rw [entries_eq_of_at? hd hs]
    cases (recordsOf sources).mapM (readRecord segment key) <;> simp [Functor.map, Except.map]
  rw [hmap, Table.mapM_eq_error_iff (sorted_recordsOf hsorted)]
  simp only [get?_recordsOf hs hsorted]
  constructor
  · rintro ⟨source, record, hrecord, hfault, hless⟩
    obtain ⟨flagFault, hfirst, rfl⟩ := (readRecord_eq_error_iff hrecord.2).mp hfault
    exact ⟨source, record, flagFault, hrecord, hfirst, rfl, fun other hlt r hother =>
      (exists_readRecord_iff hother.2).mp (hless other hlt r hother)⟩
  · rintro ⟨source, record, flagFault, hrecord, hfirst, rfl, hless⟩
    exact ⟨source, record, hrecord, (readRecord_eq_error_iff hrecord.2).mpr ⟨flagFault, hfirst, rfl⟩,
      fun other hlt r hother => (exists_readRecord_iff hother.2).mpr (hless other hlt r hother)⟩

/-- A trait that the document knows has entries if its records are well typed. -/
theorem exists_entries_iff (hknows : Knows doc segment key) :
    (∃ entries, document.entries segment key = .ok (some entries)) ↔
      WellTypedAt doc segment key := by
  constructor
  · rintro ⟨entries, he⟩
    exact ((entries_eq_some_iff h hd).mp he).2.1
  · intro htyped
    rcases he : document.entries segment key with fault | _ | entries
    · obtain ⟨source, record, flagFault, hrecord, ⟨flag, hwrong, -⟩, -⟩ :=
        (entries_eq_error_iff h hd).mp he
      exact absurd hwrong (htyped source record hrecord).not_wrongFlag
    · exact absurd hknows ((entries_eq_none_iff hd).mp he)
    · exact ⟨entries, rfl⟩

end Known

/-- A document is a matrix if it is an object of objects, and else it is rejected for its least part
that is no object. The matrix has no entries for a trait exactly if the document has no object for
it. Otherwise it answers one entry for each record of operations in the order of their sources, as
long as all of these are well typed, and else it names the least source whose record is not, with
the first wrong flag there. -/
theorem entries_are_exact {doc : Json} (h : doc.Ordered) :
    ((∃ document, ofJson doc = .ok document) ↔ doc.isObject = true ∧
      ∀ segment value, doc.get? segment = some value → value.isObject = true) ∧
    (∀ fault, ofJson doc = .error fault ↔
      doc.isObject = false ∧ fault = .notObject ∨
      ∃ segment value, doc.get? segment = some value ∧ value.isObject = false ∧
        fault = .segmentNotObject segment ∧
        ∀ other < segment, ∀ v, doc.get? other = some v → v.isObject = true) ∧
    ∀ document, ofJson doc = .ok document → ∀ segment key,
      (document.entries segment key = .ok none ↔ ¬ Knows doc segment key) ∧
      (Knows doc segment key →
        ((∃ entries, document.entries segment key = .ok (some entries)) ↔
          WellTypedAt doc segment key)) ∧
      (∀ entries, document.entries segment key = .ok (some entries) ↔
        Knows doc segment key ∧ WellTypedAt doc segment key ∧ Answers doc segment key entries) ∧
      ∀ fault, document.entries segment key = .error fault ↔ FaultAt doc segment key fault := by
  refine ⟨exists_ofJson_iff h, fun fault => ofJson_eq_error_iff h, fun document hd segment key => ?_⟩
  exact ⟨entries_eq_none_iff hd, exists_entries_iff h hd, fun entries => entries_eq_some_iff h hd,
    fun fault => entries_eq_error_iff h hd⟩

def mixedMatrix : MatrixDocument :=
  [("base", [
    ("owner", .object [("layout", .object [("offset", .null)]), ("note", .string "structural"),
      ("racf", .object [("alter", .bool true), ("extract", .bool false)])]),
    ("size", .object [("first", .object [("add", .bool true), ("extract", .bool true)]),
      ("second", .object [("alt", .bool true), ("alter", .null), ("extract", .bool true)])])])]

theorem entries_are_exact_mixed :
    let doc : Json := .object (mixedMatrix.mapValues .object)
    doc.Ordered ∧ ofJson doc = .ok mixedMatrix ∧
      Answers doc "base" "owner" [⟨false, true, false⟩] ∧ ¬ Knows doc "base" "note" ∧
      FaultAt doc "base" "size" (.badRecord "base" "size" "second" .duplicate) := by
  intro doc
  have hordered : doc.Ordered := by decide
  obtain ⟨-, -, hexact⟩ := entries_are_exact hordered
  have hread : ofJson doc = .ok mixedMatrix := rfl
  obtain ⟨-, -, howner, -⟩ := hexact mixedMatrix hread "base" "owner"
  obtain ⟨hnote, -⟩ := hexact mixedMatrix hread "base" "note"
  obtain ⟨-, -, -, hsize⟩ := hexact mixedMatrix hread "base" "size"
  exact ⟨hordered, hread, ((howner _).mp rfl).2.2, hnote.mp rfl, (hsize _).mp rfl⟩

end MatrixDocument

end TraitSchema
