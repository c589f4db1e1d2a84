import TraitSchema.Proofs.ConversionSteps
import TraitSchema.Proofs.StorableSchemas
import TraitSchema.Proofs.StoredDocuments

namespace TraitSchema

/-- What files hold after these bytes have been written to these places, one after the other. -/
def overwritten (files : List String → Option ByteArray)
    (writes : List (List String × ByteArray)) : List String → Option ByteArray :=
  fun place => (writes.reverse.lookup place).or (files place)

theorem overwritten_append (files : List String → Option ByteArray)
    (before after : List (List String × ByteArray)) :
    overwritten files (before ++ after) = overwritten (overwritten files before) after := by
  funext place
  rw [overwritten, List.reverse_append, List.lookup_append, Option.or_assoc]
  rfl

/-- Writing the same bytes again in the same order changes nothing. -/
theorem overwritten_overwritten (files : List String → Option ByteArray)
    (writes : List (List String × ByteArray)) :
    overwritten (overwritten files writes) writes = overwritten files writes := by
  funext place
  rw [overwritten, overwritten, ← Option.or_assoc, Option.or_self]

namespace FileTree

def placesOf (writes : List (List String × ByteArray)) : Set (List String) :=
  {place | place ∈ writes.map (·.1)}

/-- One tree comes from the other by writing these bytes to these places, one after the other, and
by making directories. -/
structure Writes (writes : List (List String × ByteArray)) (t u : FileTree) : Prop where
  grows : Grows (placesOf writes) t u
  file?_eq : u.file? = overwritten t.file? writes

variable {writes more : List (List String × ByteArray)} {t u v : FileTree}

theorem writes_nil (t : FileTree) : Writes [] t t := ⟨.refl t, rfl⟩

theorem mem_placesOf_append {place : List String} :
    place ∈ placesOf (writes ++ more) ↔ place ∈ placesOf writes ∨ place ∈ placesOf more := by
  simp only [placesOf, Set.mem_ofPred_eq, List.map_append, List.mem_append]

theorem placesOf_append_left : placesOf writes ⊆ placesOf (writes ++ more) :=
  fun _ hp => mem_placesOf_append.mpr (.inl hp)

theorem placesOf_append_right : placesOf more ⊆ placesOf (writes ++ more) :=
  fun _ hp => mem_placesOf_append.mpr (.inr hp)

theorem Writes.append (h : Writes writes t u) (hu : Writes more u v) :
    Writes (writes ++ more) t v where
  grows := (h.grows.mono placesOf_append_left).trans (hu.grows.mono placesOf_append_right)
  file?_eq := by rw [hu.file?_eq, h.file?_eq, overwritten_append]

theorem Grows.writes_singleton {place : List String} {content : ByteArray} (h : Grows {place} t u)
    (hf : u.file? place = some content) : Writes [(place, content)] t u where
  grows := h.mono fun other ho => List.mem_singleton.mpr ho
  file?_eq := by
    funext other
    by_cases ho : other = place
    · simp [overwritten, ho, hf]
    · have hne : (other == place) = false := beq_eq_false_iff_ne.mpr ho
      have hother : u.file? other = t.file? other := h.file?_eq ho
      simp [overwritten, List.lookup_cons, hne, hother]

theorem Writes.file?_singleton {place : List String} {content : ByteArray}
    (h : Writes [(place, content)] t u) : u.file? place = some content := by
  simp [h.file?_eq, overwritten]

end FileTree

open FileTree

def Json.written (path : String) (value : Json) : List String × ByteArray :=
  (Path.place path, value.fileText.toUTF8)

theorem Task.writes_of_writeJson {path : String} {value : Json} {w w' : World}
    (h : endIn (writeJson path value : Task InWorld Unit) w = (.ok (), w')) :
    Writes [value.written path] w.files w'.files ∧ Settled w'.files path := by
  obtain ⟨hgrows, hsettled, hfile⟩ := writeJson_ok h
  exact ⟨hgrows.writes_singleton hfile, hsettled⟩

namespace Generation

/-- The files that were written for a key map. -/
def writesOf (c : Converted) : List (List String × ByteArray) :=
  (c.file.map fun path => c.fragment.toJson.written path).toList

/-- The tree has this text in the file of the key map, and this document in that of its support
matrix. -/
structure HoldsKeyMap (config : Config) (t : FileTree) (source : KeyMapSource) (text : String)
    (document : MatrixDocument) : Prop where
  text_eq : t.readText source.path = .ok text
  readable : Readable t (matrixPath config source.adminType)
  document_eq : ∃ value, t.json? (matrixPath config source.adminType) = some value ∧
    MatrixDocument.ofJson value = .ok document

/-- The key map, as the tree has it, is converted to this. -/
structure Converts (config : Config) (t : FileTree) (source : KeyMapSource) (c : Converted) :
    Prop where
  exists_run : ∃ text document, HoldsKeyMap config t source text document ∧
    ((⟨config.mode, source.adminType, document.matrix source.adminType⟩ : Conversion).run
      text.toList).outcome = .ok (c.fragment, c.segmentCount)
  file_eq : c.file = fragmentPath? config source

/-- The key maps are converted to these one after the other. Each is read from the tree that the
fragments written for those before it have left. -/
inductive ConvertsAll (config : Config) :
    FileTree → List KeyMapSource → List Converted → FileTree → Prop where
  | nil (t : FileTree) : ConvertsAll config t [] [] t
  | cons {t u v : FileTree} {source : KeyMapSource} {sources : List KeyMapSource} {c : Converted}
      {rest : List Converted} (first : Converts config t source c) (writes : Writes (writesOf c) t u)
      (later : ConvertsAll config u sources rest v) :
      ConvertsAll config t (source :: sources) (c :: rest) v

variable {config : Config} {source : KeyMapSource} {c : Converted} {t u : FileTree} {w w' : World}

theorem Converts.adminType_eq (h : Converts config t source c) :
    c.fragment.adminType = source.adminType := by
  obtain ⟨text, document, -, hrun⟩ := h.exists_run
  rw [(Conversion.run_ok hrun).1, Fragment.adminType_insertAll]
  rfl

theorem ConvertsAll.writes {sources : List KeyMapSource} {converted : List Converted}
    (h : ConvertsAll config t sources converted u) :
    Writes (converted.flatMap writesOf) t u := by
  induction h with
  | nil t => exact writes_nil t
  | cons _ hwrites _ ih => exact hwrites.append ih

theorem ConvertsAll.exists_converted {sources : List KeyMapSource} {converted : List Converted}
    (h : ConvertsAll config t sources converted u) (hs : source ∈ sources) :
    ∃ c ∈ converted, c.fragment.adminType = source.adminType := by
  induction h with
  | nil => cases hs
  | cons hfirst _ _ ih =>
    rcases List.mem_cons.mp hs with rfl | hs
    · exact ⟨_, List.mem_cons_self, hfirst.adminType_eq⟩
    · obtain ⟨c, hc, htype⟩ := ih hs
      exact ⟨c, List.mem_cons_of_mem _ hc, htype⟩

theorem readKeyMap_ok {result : Fragment × Nat}
    (h : endIn (readKeyMap config source) w = (.ok result, w')) :
    ∃ text document, HoldsKeyMap config w.files source text document ∧
      ((⟨config.mode, source.adminType, document.matrix source.adminType⟩ : Conversion).run
        text.toList).outcome = .ok result := by
  obtain ⟨_, w₁, hextension, h⟩ := ok_of_bind h
  obtain ⟨_, w₂, hreport, h⟩ := ok_of_bind h
  obtain ⟨document, w₃, hdocument, h⟩ := ok_of_bind h
  obtain ⟨⟨hreadable, hvalue⟩, rfl⟩ :=
    Task.loadMatrix_eq_ok_iff.mp (endIn_adapt_eq_ok_iff.mp hdocument)
  obtain ⟨text, w₄, hread, h⟩ := ok_of_bind h
  obtain ⟨htext, rfl⟩ := endIn_readingText_eq_ok_iff.mp hread
  obtain ⟨_, _, -, h⟩ := ok_of_bind h
  -- nothing before the matrix writes, so both files are read from the tree the run began with
  have hfirst : ReadsOnly Eq
      (requireExtension config.mode source.path "hpp" : Run InWorld Unit) :=
    readsOnly_requireExtension _ _ _
  have hsecond : ReadsOnly Eq
      (report (.converting source.adminType source.path) : Run InWorld Unit) :=
    readsOnly_report _
  have hfiles : w₂.files = w.files :=
    (hsecond.files_eq hreport).trans (hfirst.files_eq hextension)
  rw [hfiles] at hreadable hvalue htext
  exact ⟨text, document, ⟨htext, hreadable, hvalue⟩,
    mapError_eq_ok_iff.mp (congrArg Prod.fst h)⟩

theorem store_ok {path? : Option String} {fragment : Fragment} {n : Nat}
    (h : endIn (store path? fragment n) w = (.ok c, w')) :
    c = ⟨fragment, n, path?⟩ ∧ Writes (writesOf c) w.files w'.files ∧
      ∀ path, path? = some path → Settled w'.files path := by
  cases path? with
  | none =>
    cases h
    exact ⟨rfl, writes_nil _, fun _ hp => nomatch hp⟩
  | some path =>
    obtain ⟨_, w₁, hwrite, h⟩ := ok_of_bind h
    cases h
    obtain ⟨hwrites, hsettled⟩ := Task.writes_of_writeJson (endIn_adapt_eq_ok_iff.mp hwrite)
    exact ⟨rfl, hwrites, fun _ hp => Option.some.inj hp ▸ hsettled⟩

/-- A key map that is converted is read, and its fragment is written if there is a place for it. -/
theorem convert_ok (h : endIn (convert config source : Run InWorld Converted) w = (.ok c, w')) :
    Converts config w.files source c ∧ Writes (writesOf c) w.files w'.files ∧
      ∀ path, c.file = some path → Settled w'.files path := by
  rw [convert_eq] at h
  obtain ⟨result, w₁, hread, h⟩ := ok_of_bind h
  obtain ⟨hc, hwrites, hsettled⟩ := store_ok h
  rw [(readsOnly_readKeyMap config source).files_eq hread] at hwrites
  cases hc
  exact ⟨⟨readKeyMap_ok hread, rfl⟩, hwrites, hsettled⟩

theorem convertAll_ok {sources : List KeyMapSource} {converted : List Converted}
    (h : endIn (sources.mapM (convert config) : Run InWorld (List Converted)) w =
      (.ok converted, w')) :
    ConvertsAll config w.files sources converted w'.files ∧
      ∀ c ∈ converted, ∀ path, c.file = some path → Settled w'.files path := by
  induction sources generalizing w converted with
  | nil =>
    cases h
    exact ⟨.nil _, fun _ hc => nomatch hc⟩
  | cons source sources ih =>
    rw [List.mapM_cons] at h
    obtain ⟨c, w₁, hfirst, h⟩ := ok_of_bind h
    obtain ⟨rest, w₂, hrest, h⟩ := ok_of_bind h
    cases h
    obtain ⟨hc, hwrites, hsettled⟩ := convert_ok hfirst
    obtain ⟨hall, hsettledRest⟩ := ih hrest
    refine ⟨.cons hc hwrites hall, List.forall_mem_cons.mpr ⟨fun path hp => ?_, hsettledRest⟩⟩
    -- the file is still there when the other fragments are written
    exact hall.writes.grows.settled (hsettled path hp)

theorem mem_placesOf_writesOf {converted : List Converted} {place : List String} :
    place ∈ placesOf (converted.flatMap writesOf) ↔
      ∃ c ∈ converted, ∃ path, c.file = some path ∧ place = Path.place path := by
  simp only [placesOf, Set.mem_ofPred_eq, List.mem_map, List.mem_flatMap, writesOf,
    Option.mem_toList, Option.map_eq_some_iff]
  constructor
  · rintro ⟨_, ⟨c, hc, path, hpath, rfl⟩, rfl⟩
    exact ⟨c, hc, path, hpath, rfl⟩
  · rintro ⟨c, hc, path, hpath, rfl⟩
    exact ⟨_, ⟨c, hc, path, hpath, rfl⟩, rfl⟩

def reportOf (config : Config) (converted : List Converted) : GenerationReport :=
  ⟨converted, Aggregate.ofFragments (converted.map (·.fragment)),
    converted.filterMap (·.file) ++ [config.output]⟩

theorem finish_ok {converted : List Converted} {report : GenerationReport}
    (h : endIn (finish config converted) w = (.ok report, w')) :
    report = reportOf config converted ∧
      ∃ base, endIn (loadBase config : Run InWorld Json) w = (.ok base, w) ∧
        Writes [(masterSchema base converted).written config.output] w.files w'.files ∧
        Settled w'.files config.output := by
  obtain ⟨base, w₁, hbase, h⟩ := ok_of_bind h
  obtain ⟨⟨⟩, w₂, hwrite, hreport⟩ := ok_of_bind h
  obtain ⟨-, rfl⟩ := loadBase_eq_ok_iff.mp hbase
  have hwrites := Task.writes_of_writeJson (endIn_adapt_eq_ok_iff.mp hwrite)
  -- what is left to do is to report that the schema was written
  cases hreport
  exact ⟨rfl, base, hbase, hwrites⟩

/-- A run that succeeds plans, converts every key map and finishes. -/
theorem generate_ok {report : GenerationReport}
    (h : endIn (generate config : Run InWorld GenerationReport) w = (.ok report, w')) :
    ∃ sources w₁ w₂, endIn (plan config) w = (.ok sources, w₁) ∧ w₁.files = w.files ∧
      endIn (sources.mapM (convert config) : Run InWorld (List Converted)) w₁ =
        (.ok report.converted, w₂) ∧
      endIn (finish config report.converted) w₂ = (.ok report, w') := by
  rw [generate_eq] at h
  obtain ⟨sources, w₁, hplan, h⟩ := ok_of_bind h
  obtain ⟨converted, w₂, hconvert, hfinish⟩ := ok_of_bind h
  cases (finish_ok hfinish).1
  exact ⟨sources, w₁, w₂, hplan, (readsOnly_plan config).files_eq hplan, hconvert, hfinish⟩

/-- A run that succeeds converts the key maps that it discovers and writes the schema that their
fragments give together with the base schema as it is then. -/
theorem writes_of_generate {report : GenerationReport}
    (h : endIn (generate config : Run InWorld GenerationReport) w = (.ok report, w')) :
    ∃ sources base w₂,
      (endIn (discover config : Run InWorld (List KeyMapSource)) w).1 = .ok sources ∧
      ConvertsAll config w.files sources report.converted w₂.files ∧
      endIn (loadBase config : Run InWorld Json) w₂ = (.ok base, w₂) ∧
      Writes [(masterSchema base report.converted).written config.output] w₂.files w'.files ∧
      Settled w'.files config.output := by
  obtain ⟨sources, w₁, w₂, hplan, hfiles, hconvert, hfinish⟩ := generate_ok h
  have hall := (convertAll_ok hconvert).1
  obtain ⟨-, base, hbase, hmaster, hsettled⟩ := finish_ok hfinish
  exact ⟨sources, base, w₂, discover_of_plan hplan, hfiles ▸ hall, hbase, hmaster, hsettled⟩

/-- The run succeeds, and its report passes the test. -/
def succeedsWith (test : GenerationReport → Bool) (config : Config) (w : World) : Bool :=
  match (endIn (generate config : Run InWorld GenerationReport) w).1 with
  | .ok report => test report
  | .error _ => false

theorem exists_of_succeedsWith {test : GenerationReport → Bool}
    (h : succeedsWith test config w = true) :
    ∃ report w', endIn (generate config : Run InWorld GenerationReport) w = (.ok report, w') ∧
      test report = true := by
  unfold succeedsWith at h
  rcases hrun : endIn (generate config : Run InWorld GenerationReport) w with ⟨e | report, w'⟩ <;>
    rw [hrun] at h
  · cases h
  · exact ⟨report, w', rfl, h⟩

end Generation

end TraitSchema
