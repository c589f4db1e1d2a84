import TraitSchema.Proofs.DiscoveredPaths
import TraitSchema.Proofs.WrittenSchemas

namespace TraitSchema.Generation

open FileTree

variable {config : Config} {w w' v : World} {places : Set (List String)}

theorem store_of_settled {path? : Option String} (fragment : Fragment) (n : Nat)
    (h : ∀ path, path? = some path → Settled v.files path) :
    ∃ v', endIn (store path? fragment n) v = (.ok ⟨fragment, n, path?⟩, v') := by
  cases path? with
  | none => exact ⟨v, rfl⟩
  | some path =>
    obtain ⟨v', hwrite⟩ := Task.writeJson_of_settled (h path rfl) fragment.toJson
    exact ⟨v', endIn_bind_of_ok (endIn_adapt_eq_ok_iff.mpr hwrite)⟩

def readPaths (config : Config) (source : KeyMapSource) : List String :=
  [matrixPath config source.adminType, source.path]

/-- A key map is converted again where its files are the same and its fragment can be written. -/
theorem convert_again {source : KeyMapSource} {c : Converted}
    (h : endIn (convert config source : Run InWorld Converted) w = (.ok c, w'))
    (hgrows : Grows places w.files v.files)
    (hread : ∀ path ∈ readPaths config source, Path.place path ∉ places)
    (hsettled : ∀ path, c.file = some path → Settled v.files path) :
    ∃ v', endIn (convert config source : Run InWorld Converted) v = (.ok c, v') := by
  rw [convert_eq] at h ⊢
  obtain ⟨result, w₁, hfirst, h⟩ := ok_of_bind h
  obtain ⟨v₁, hagain, hfiles⟩ :=
    (readsOnly_readKeyMap config source).succeeds (hgrows.showsTexts hread) hfirst
  cases (store_ok h).1
  rw [endIn_bind_of_ok hagain]
  exact store_of_settled result.1 result.2 (hfiles.symm ▸ hsettled)

theorem convertAll_again {sources : List KeyMapSource} {converted : List Converted}
    (h : endIn (sources.mapM (convert config) : Run InWorld (List Converted)) w =
      (.ok converted, w'))
    (hgrows : Grows places w'.files v.files)
    (hplaces : placesOf (converted.flatMap writesOf) ⊆ places)
    (hread : ∀ source ∈ sources, ∀ path ∈ readPaths config source, Path.place path ∉ places) :
    ∃ v', endIn (sources.mapM (convert config) : Run InWorld (List Converted)) v =
      (.ok converted, v') := by
  induction sources generalizing w v converted with
  | nil =>
    cases h
    exact ⟨v, rfl⟩
  | cons source sources ih =>
    rw [List.mapM_cons] at h ⊢
    obtain ⟨c, w₁, hfirst, h⟩ := ok_of_bind h
    obtain ⟨rest, _, hrest, h⟩ := ok_of_bind h
    cases h
    rw [List.flatMap_cons] at hplaces
    obtain ⟨-, hwrites, hsettled⟩ := convert_ok hfirst
    have hwritesRest := (convertAll_ok hrest).1.writes
    have hhere : placesOf (writesOf c) ⊆ places := fun _ hp => hplaces (placesOf_append_left hp)
    have hlater : placesOf (rest.flatMap writesOf) ⊆ places :=
      fun _ hp => hplaces (placesOf_append_right hp)
    have hgrowsRest : Grows places w₁.files v.files :=
      (hwritesRest.grows.mono hlater).trans hgrows
    -- the first key map is converted as it was, and the tree grows by its fragment only
    obtain ⟨v₁, hagain⟩ := convert_again hfirst ((hwrites.grows.mono hhere).trans hgrowsRest)
      (hread source List.mem_cons_self) fun path hp => hgrowsRest.settled (hsettled path hp)
    have hgrowsAgain : Grows places w'.files v₁.files :=
      hgrows.trans ((convert_ok hagain).2.1.grows.mono hhere)
    obtain ⟨v₂, hrestAgain⟩ := ih hrest hgrowsAgain hlater fun source hs =>
      hread source (List.mem_cons_of_mem _ hs)
    exact ⟨v₂, by rw [endIn_bind_of_ok hagain, endIn_bind_of_ok hrestAgain, endIn_pure]⟩

theorem finish_of_settled (converted : List Converted) {base : Json}
    (hbase : endIn (loadBase config : Run InWorld Json) v = (.ok base, v))
    (hsettled : Settled v.files config.output) :
    ∃ v', endIn (finish config converted) v = (.ok (reportOf config converted), v') ∧
      Writes [(masterSchema base converted).written config.output] v.files v'.files := by
  obtain ⟨v₁, hwrite⟩ := Task.writeJson_of_settled hsettled (masterSchema base converted)
  let count := (Aggregate.ofFragments (converted.map (·.fragment))).definitions.length
  refine ⟨{ v₁ with events := v₁.events ++ [.wroteSchema count config.output] },
    (endIn_bind_of_ok hbase).trans ?_, (Task.writes_of_writeJson hwrite).1⟩
  exact endIn_bind_of_ok (endIn_adapt_eq_ok_iff.mpr hwrite)

/-- After a run, the base schema is the one that was read or the schema that was written; both give
the same schema with the same fragments. -/
theorem exists_base_after {converted : List Converted} {base : Json} {t u : FileTree}
    (hbase : t.json? config.baseSchema = some base) (his : isBaseSchema base = true)
    (hintegral : base.Integral)
    (hmaster : Writes [(masterSchema base converted).written config.output] t u) :
    ∃ after, u.json? config.baseSchema = some after ∧ isBaseSchema after = true ∧
      masterSchema after converted = masterSchema base converted := by
  have hstorable := storable_of_json? hbase hintegral
  by_cases hplace : Path.place config.baseSchema = Path.place config.output
  · have hwritten : u.json? config.baseSchema = some (masterSchema base converted) :=
      json?_of_file? (storable_masterSchema hstorable converted)
        (hplace ▸ hmaster.file?_singleton)
    exact ⟨_, hwritten, isBaseSchema_masterSchema his converted,
      masterSchema_masterSchema hstorable.ordered converted⟩
  · have hkept : u.json? config.baseSchema = some base := by
      refine (json?_congr (hmaster.grows.file?_eq fun hm => hplace ?_)).trans hbase
      exact List.mem_singleton.mp hm
    exact ⟨base, hkept, his, rfl⟩

/-- What a run writes when it has converted the key maps to these. -/
def runWrites (config : Config) (base : Json) (converted : List Converted) :
    List (List String × ByteArray) :=
  converted.flatMap writesOf ++ [(masterSchema base converted).written config.output]

theorem exists_path_of_mem_runWrites {converted : List Converted} {base : Json}
    {place : List String} (h : place ∈ placesOf (runWrites config base converted)) :
    ∃ path ∈ (reportOf config converted).files, place = Path.place path := by
  rcases mem_placesOf_append.mp h with h | h
  · obtain ⟨c, hc, path, hpath, rfl⟩ := mem_placesOf_writesOf.mp h
    exact ⟨path, List.mem_append_left _ (List.mem_filterMap.mpr ⟨c, hc, hpath⟩), rfl⟩
  · exact ⟨config.output, List.mem_append_right _ (List.mem_singleton_self _),
      List.mem_singleton.mp h⟩

/-- What is read for the key maps lies in their directory or is a support matrix. -/
theorem readPaths_apart {sources : List KeyMapSource} {converted : List Converted}
    {t u : FileTree}
    (hnames : w.files.PlainNames)
    (hfound : (endIn (discover config : Run InWorld (List KeyMapSource)) w).1 = .ok sources)
    (hall : ConvertsAll config t sources converted u)
    (hdirectory : ∀ place ∈ places, ∀ name, place ≠ Path.place config.keyMapDir ++ [name])
    (hmatrices : ∀ place ∈ places, ∀ c ∈ converted,
      place ≠ Path.place (matrixPath config c.fragment.adminType)) :
    ∀ source ∈ sources, ∀ path ∈ readPaths config source, Path.place path ∉ places := by
  intro source hs path hpath hp
  simp only [readPaths, List.mem_cons, List.not_mem_nil, or_false] at hpath
  rcases hpath with rfl | rfl
  · obtain ⟨c, hc, htype⟩ := hall.exists_converted hs
    exact hmatrices _ hp c hc (htype ▸ rfl)
  · obtain ⟨name, hname⟩ := exists_place_of_discover hnames hfound hs
    exact hdirectory _ hp name hname

/-- A run that succeeded succeeds again on the tree that it has left. It reports the same and
leaves every file as it is, also where the schema is written over the base schema. -/
theorem rerun_is_identical {report : GenerationReport}
    (hrun : endIn (generate config : Run InWorld GenerationReport) w = (.ok report, w'))
    (hnames : w.files.PlainNames)
    (hintegral : ∀ base, w.files.json? config.baseSchema = some base → base.Integral)
    (hdirectory : ∀ path ∈ report.files, ∀ name,
      Path.place path ≠ Path.place config.keyMapDir ++ [name])
    (hmatrices : ∀ path ∈ report.files, ∀ c ∈ report.converted,
      Path.place path ≠ Path.place (matrixPath config c.fragment.adminType))
    (hapart : ∀ c ∈ report.converted, ∀ path, c.file = some path →
      Path.place path ≠ Path.place config.baseSchema) :
    ∃ w'', endIn (generate config : Run InWorld GenerationReport) w' = (.ok report, w'') ∧
      ∀ place, w''.files.file? place = w'.files.file? place := by
  obtain ⟨sources, w₁, w₂, hplan, hfiles, hconvert, hfinish⟩ := generate_ok hrun
  have hall := (convertAll_ok hconvert).1
  have hwrites := hall.writes
  obtain ⟨hreport, base, hload, hmaster, hsettled⟩ := finish_ok hfinish
  obtain ⟨⟨hreadable, hjson, his⟩, -⟩ := loadBase_eq_ok_iff.mp hload
  rw [hfiles] at hwrites
  have hrunWrites : Writes (runWrites config base report.converted) w.files w'.files :=
    hwrites.append hmaster
  have hwritten : ∀ place ∈ placesOf (runWrites config base report.converted),
      ∃ path ∈ report.files, place = Path.place path := by
    intro place hp
    rw [hreport]
    exact exists_path_of_mem_runWrites hp
  have hdirectoryPlaces : ∀ place ∈ placesOf (runWrites config base report.converted), ∀ name,
      place ≠ Path.place config.keyMapDir ++ [name] := by
    intro place hp name
    obtain ⟨path, hpath, rfl⟩ := hwritten place hp
    exact hdirectory path hpath name
  have hmatrixPlaces : ∀ place ∈ placesOf (runWrites config base report.converted),
      ∀ c ∈ report.converted, place ≠ Path.place (matrixPath config c.fragment.adminType) := by
    intro place hp c hc
    obtain ⟨path, hpath, rfl⟩ := hwritten place hp
    exact hmatrices path hpath c hc
  -- the same key maps are found and converted to the same fragments
  obtain ⟨v₁, hplanAgain, hfilesAgain⟩ := (readsOnly_plan config).succeeds
    (hrunWrites.grows.showsFiles hdirectoryPlaces) hplan
  have hgrows : Grows (placesOf (runWrites config base report.converted)) w₂.files v₁.files := by
    rw [hfilesAgain]
    exact hmaster.grows.mono placesOf_append_right
  obtain ⟨v₂, hconvertAgain⟩ := convertAll_again hconvert hgrows placesOf_append_left
    (readPaths_apart hnames (discover_of_plan hplan) hall hdirectoryPlaces hmatrixPlaces)
  have hwritesAgain := (convertAll_ok hconvertAgain).1.writes
  rw [hfilesAgain] at hwritesAgain
  -- the base schema gives the same schema as before
  obtain ⟨after, hafter, hisAfter, hsame⟩ := exists_base_after hjson his
    (hintegral base ((json?_baseSchema_of_writes hwrites hapart).symm.trans hjson)) hmaster
  have hloadAgain : endIn (loadBase config : Run InWorld Json) v₂ = (.ok after, v₂) :=
    loadBase_eq_ok_iff.mpr ⟨⟨hwritesAgain.grows.readable (hmaster.grows.readable hreadable),
      (json?_baseSchema_of_writes hwritesAgain hapart).trans hafter, hisAfter⟩, rfl⟩
  obtain ⟨v₃, hfinishAgain, hmasterAgain⟩ := finish_of_settled report.converted hloadAgain
    (hwritesAgain.grows.settled hsettled)
  rw [hsame] at hmasterAgain
  have hrunWritesAgain : Writes (runWrites config base report.converted) w'.files v₃.files :=
    hwritesAgain.append hmasterAgain
  refine ⟨v₃, ?_, fun place => ?_⟩
  · rw [generate_eq, endIn_bind_of_ok hplanAgain, endIn_bind_of_ok hconvertAgain, hreport]
    exact hfinishAgain
  · rw [hrunWritesAgain.file?_eq, hrunWrites.file?_eq, overwritten_overwritten]

def overwritingConfig : Config := { smallConfig with output := smallConfig.baseSchema }

theorem plainNames_smallWorld : smallWorld.files.PlainNames := by
  unfold FileTree.PlainNames
  decide +kernel

theorem rerun_is_identical_overwriting :
    ∃ report w' w'', endIn (generate overwritingConfig : Run InWorld GenerationReport) smallWorld =
        (.ok report, w') ∧
      endIn (generate overwritingConfig : Run InWorld GenerationReport) w' = (.ok report, w'') ∧
      ∀ place, w''.files.file? place = w'.files.file? place := by
  have hruns : succeedsWith (fun report =>
      report.files.map Path.place == [["out", "user.json"], ["base.json"]] &&
        report.converted.map (fun c => (c.fragment.adminType, c.file)) ==
          [(⟨"user"⟩, some "out/user.json")]) overwritingConfig smallWorld = true := by
    decide +kernel
  obtain ⟨report, w', hrun, hreport⟩ := exists_of_succeedsWith hruns
  obtain ⟨hfiles, hconverted⟩ := Bool.and_eq_true_iff.mp hreport
  have hplaces : ∀ path ∈ report.files,
      Path.place path = ["out", "user.json"] ∨ Path.place path = ["base.json"] := by
    intro path hp
    simpa [eq_of_beq hfiles] using List.mem_map_of_mem (f := Path.place) hp
  have hcases : ∀ c ∈ report.converted,
      c.fragment.adminType = ⟨"user"⟩ ∧ c.file = some "out/user.json" := by
    intro c hc
    simpa [eq_of_beq hconverted] using
      List.mem_map_of_mem (f := fun c : Converted => (c.fragment.adminType, c.file)) hc
  have hintegral : ∀ base, smallWorld.files.json? overwritingConfig.baseSchema = some base →
      base.Integral := by
    intro base hbase
    cases hbase.symm.trans json?_smallWorld
    exact storable_titleSchema.integral
  have hdirectory : ∀ path ∈ report.files, ∀ name,
      Path.place path ≠ Path.place overwritingConfig.keyMapDir ++ [name] := by
    intro path hp name
    have hmaps : Path.place overwritingConfig.keyMapDir = ["maps"] := by decide +kernel
    rcases hplaces path hp with h | h <;> simp [h, hmaps]
  have hmatrices : ∀ path ∈ report.files, ∀ c ∈ report.converted, Path.place path ≠
      Path.place (matrixPath overwritingConfig c.fragment.adminType) := by
    intro path hp c hc
    have hmatrix : Path.place (matrixPath overwritingConfig ⟨"user"⟩) =
        ["support", "u_admin.json"] := by decide +kernel
    rw [(hcases c hc).1, hmatrix]
    rcases hplaces path hp with h | h <;> simp [h]
  have hapart : ∀ c ∈ report.converted, ∀ path, c.file = some path →
      Path.place path ≠ Path.place overwritingConfig.baseSchema := by
    intro c hc path hpath
    cases (hcases c hc).2.symm.trans hpath
    decide +kernel
  obtain ⟨w'', hagain, hsame⟩ := rerun_is_identical hrun plainNames_smallWorld hintegral
    hdirectory hmatrices hapart
  exact ⟨report, w', w'', hrun, hagain, hsame⟩

end TraitSchema.Generation
