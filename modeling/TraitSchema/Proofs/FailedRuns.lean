import TraitSchema.Proofs.ReadingSteps

namespace TraitSchema

namespace Task

theorem keepsFiles_makeDirectories (path directory : String) :
    KeepsFiles (onFile path (FileAccess.makeDirectories directory) : Task InWorld Unit) :=
  fun w place _ => FileTree.file?_makeDirectories w.files (Path.steps directory).reverse place

theorem endIn_changeFiles {α : Type} (path : String)
    (change : FileTree → FileTree × Except FileError α) (w : World) :
    endIn (onFile path (InWorld.changeFiles change) : Task InWorld α) w =
      ((change w.files).2.mapError (.file path), { w with files := (change w.files).1 }) := rfl

theorem endIn_writeText (path text : String) (w : World) :
    endIn (onFile path (FileAccess.writeText path text) : Task InWorld Unit) w =
      match w.files.write path text.toUTF8 with
      | .ok files => (Except.ok (), { w with files })
      | .error e => (Except.error (.file path e), w) := by
  refine (endIn_changeFiles path _ w).trans ?_
  cases w.files.write path text.toUTF8 <;> rfl

theorem changesOnly_writeText (path text : String) :
    ChangesOnly {Path.place path}
      (onFile path (FileAccess.writeText path text) : Task InWorld Unit) := by
  intro w place hp
  rw [endIn_writeText]
  cases h : w.files.write path text.toUTF8 with
  | error e => rfl
  | ok files => exact FileTree.file?_write h hp

theorem keepsOnFailure_writeText (path text : String) :
    KeepsOnFailure (onFile path (FileAccess.writeText path text) : Task InWorld Unit) := by
  intro w e w' hs place
  rw [endIn_writeText] at hs
  cases h : w.files.write path text.toUTF8 <;> rw [h] at hs <;> cases hs
  rfl

/-- Makes the directory that a file is to stand in, if its path has one. -/
def makeParent (path : String) : Task InWorld Unit :=
  if Path.parent path ≠ "" then onFile path (FileAccess.makeDirectories (Path.parent path))
  else pure ()

theorem writeJson_eq (path : String) (value : Json) :
    (writeJson path value : Task InWorld Unit) =
      makeParent path >>= fun _ => onFile path (FileAccess.writeText path value.fileText) := by
  rw [writeJson, makeParent]
  split <;> rfl

theorem keepsFiles_makeParent (path : String) : KeepsFiles (makeParent path) := by
  rw [makeParent]
  split
  · exact keepsFiles_makeDirectories path (Path.parent path)
  · exact keepsFiles_pure ()

theorem changesOnly_writeJson (path : String) (value : Json) :
    ChangesOnly {Path.place path} (writeJson path value : Task InWorld Unit) := by
  rw [writeJson_eq]
  exact (keepsFiles_makeParent path).changesOnly.bind fun _ => changesOnly_writeText path _

theorem keepsOnFailure_writeJson (path : String) (value : Json) :
    KeepsOnFailure (writeJson path value : Task InWorld Unit) := by
  rw [writeJson_eq]
  exact (keepsFiles_makeParent path).bind_onFailure fun _ => keepsOnFailure_writeText path _

end Task

namespace Generation

def finish (config : Config) (converted : List Converted) : Run InWorld GenerationReport := do
  let aggregate := Aggregate.ofFragments (converted.map (·.fragment))
  let base ← loadBase config
  during .schema (Task.writeJson config.output (Json.uniteSchemas base aggregate.document))
  report (.wroteSchema aggregate.definitions.length config.output)
  return ⟨converted, aggregate, converted.filterMap (·.file) ++ [config.output]⟩

theorem generate_eq (config : Config) :
    (generate config : Run InWorld GenerationReport) =
      plan config >>= fun sources => sources.mapM (convert config) >>= finish config := by
  simp only [generate, plan, bind_assoc]
  refine bind_congr fun _ => bind_congr fun sources => ?_
  split
  · simp only [bind_assoc, pure_bind]
    rfl
  · simp only [pure_bind]
    rfl

theorem keepsOnFailure_finish (config : Config) (converted : List Converted) :
    KeepsOnFailure (finish config converted) := by
  refine (readsOnly_loadBase config).keepsFiles.bind_onFailure fun base => ?_
  refine ((Task.keepsOnFailure_writeJson config.output _).adapt RunError.schema).bind_ok ?_
  exact fun _ w => ⟨_, _, rfl⟩

def fragmentPath? (config : Config) (source : KeyMapSource) : Option String :=
  config.fragmentsDir.map fun directory => Path.join directory (source.adminType.name ++ ".json")

def store (path? : Option String) (fragment : Fragment) (segmentCount : Nat) :
    Run InWorld Converted :=
  match path? with
  | none => return ⟨fragment, segmentCount, none⟩
  | some path => do
    during .schema (Task.writeJson path fragment.toJson)
    return ⟨fragment, segmentCount, some path⟩

theorem convert_eq (config : Config) (source : KeyMapSource) :
    (convert config source : Run InWorld Converted) =
      readKeyMap config source >>= fun result =>
        store (fragmentPath? config source) result.1 result.2 := by
  simp only [convert, readKeyMap, bind_assoc]
  refine bind_congr fun _ => bind_congr fun _ => bind_congr fun document => ?_
  refine bind_congr fun text => bind_congr fun result => ?_
  rw [fragmentPath?]
  cases config.fragmentsDir <;> rfl

/-- The places of the fragments of key maps. -/
def fragmentPlaces (config : Config) (sources : List KeyMapSource) : Set (List String) :=
  {place | ∃ source ∈ sources, ∃ path, fragmentPath? config source = some path ∧
    place = Path.place path}

theorem changesOnly_convert (config : Config) {sources : List KeyMapSource} {source : KeyMapSource}
    (hs : source ∈ sources) :
    ChangesOnly (fragmentPlaces config sources)
      (convert config source : Run InWorld Converted) := by
  rw [convert_eq]
  refine (readsOnly_readKeyMap config source).keepsFiles.changesOnly.bind fun result => ?_
  cases hpath : fragmentPath? config source with
  | none => exact (keepsFiles_pure _).changesOnly
  | some path =>
    refine (((Task.changesOnly_writeJson path _).adapt RunError.schema).mono ?_).bind fun _ =>
      (keepsFiles_pure _).changesOnly
    rintro place rfl
    exact ⟨source, hs, path, hpath, rfl⟩

theorem keepsOnFailure_convert (config : Config) (source : KeyMapSource) :
    KeepsOnFailure (convert config source : Run InWorld Converted) := by
  rw [convert_eq]
  refine (readsOnly_readKeyMap config source).keepsFiles.bind_onFailure fun result => ?_
  cases fragmentPath? config source with
  | none => exact (keepsFiles_pure _).onFailure
  | some path =>
    refine ((Task.keepsOnFailure_writeJson path _).adapt RunError.schema).bind_ok ?_
    exact fun _ w => ⟨_, _, rfl⟩

/-- The run on the world `w` converts these key maps first, one after the other. -/
def ConvertsFirst (config : Config) (w : World) (done : List KeyMapSource) : Prop :=
  ∃ sources w₁ converted w₂, endIn (plan config) w = (.ok sources, w₁) ∧ done <+: sources ∧
    endIn (done.mapM (convert config) : Run InWorld (List Converted)) w₁ = (.ok converted, w₂)

/-- A run that fails changes no file but the fragments of the key maps that it has converted. -/
theorem eq_or_converts_of_error {config : Config} {w w' : World} {e : RunError}
    (h : endIn (generate config : Run InWorld GenerationReport) w = (.error e, w')) :
    (∀ place, w'.files.file? place = w.files.file? place) ∨
      ∃ done, ConvertsFirst config w done ∧
        ∀ place ∉ fragmentPlaces config done, w'.files.file? place = w.files.file? place := by
  rw [generate_eq] at h
  obtain hplan | ⟨sources, w₁, hplan, hrest⟩ := error_of_bind h
  · exact .inl ((readsOnly_plan config).keepsFiles.onFailure w e w' hplan)
  have hsame : ∀ place, w₁.files.file? place = w.files.file? place := fun place => by
    have hw := (readsOnly_plan config).keepsFiles w place (Set.notMem_empty place)
    rwa [hplan] at hw
  -- what the conversions of a list of key maps that succeed leave
  have hdone : ∀ (done : List KeyMapSource) (converted : List Converted) (w₂ : World),
      endIn (done.mapM (convert config) : Run InWorld _) w₁ = (.ok converted, w₂) →
        ∀ place ∉ fragmentPlaces config done, w₂.files.file? place = w.files.file? place := by
    intro done converted w₂ hok place hp
    have hw := changesOnly_mapM (fun x hx => changesOnly_convert config hx) w₁ place hp
    rw [hok] at hw
    exact hw.trans (hsame place)
  obtain hmap | ⟨converted, w₂, hmap, hfinish⟩ := error_of_bind hrest
  · obtain ⟨done, source, rest, converted, w₂, hsplit, hok, hkeep⟩ :=
      error_of_mapM (keepsOnFailure_convert config) hmap
    refine .inr ⟨done, ⟨sources, w₁, converted, w₂, hplan, ⟨source :: rest, hsplit.symm⟩, hok⟩, ?_⟩
    exact fun place hp => (hkeep place).trans (hdone done converted w₂ hok place hp)
  · refine .inr ⟨sources, ⟨sources, w₁, converted, w₂, hplan, List.prefix_refl _, hmap⟩, ?_⟩
    exact fun place hp => (keepsOnFailure_finish config converted w₂ e w' hfinish place).trans
      (hdone sources converted w₂ hmap place hp)

theorem fragmentPlaces_eq_empty {config : Config} (h : config.fragmentsDir = none)
    (sources : List KeyMapSource) : fragmentPlaces config sources = ∅ := by
  rw [Set.eq_empty_iff_forall_notMem]
  rintro place ⟨source, -, path, hpath, -⟩
  rw [fragmentPath?, h] at hpath
  cases hpath

/-- A run that fails changes no file but fragments of key maps that it has converted before; none
without a place for fragments, and not its output unless that is such a fragment. -/
theorem failed_run_keeps_files {config : Config} {w w' : World} {e : RunError}
    (h : endIn (generate config : Run InWorld GenerationReport) w = (.error e, w')) :
    (∀ place, w'.files.file? place ≠ w.files.file? place →
      ∃ done, ConvertsFirst config w done ∧ place ∈ fragmentPlaces config done) ∧
    (config.fragmentsDir = none → ∀ place, w'.files.file? place = w.files.file? place) ∧
    ((∀ done, ConvertsFirst config w done →
        Path.place config.output ∉ fragmentPlaces config done) →
      w'.files.file? (Path.place config.output) = w.files.file? (Path.place config.output)) := by
  obtain hsame | ⟨done, hdone, hkeep⟩ := eq_or_converts_of_error h
  · exact ⟨fun place hne => absurd (hsame place) hne, fun _ => hsame, fun _ => hsame _⟩
  · refine ⟨fun place hne => ⟨done, hdone, ?_⟩, fun hnone place => ?_, fun hout => ?_⟩
    · by_contra hp
      exact hne (hkeep place hp)
    · exact hkeep place (fragmentPlaces_eq_empty hnone done ▸ Set.notMem_empty place)
    · exact hkeep _ (hout done hdone)

/-- A configuration whose base schema is missing in `partialWorld`. -/
def partialConfig : Config where
  keyMapDir := "maps"
  supportDir := "support"
  baseSchema := "base.json"
  output := "schema.json"
  fragmentsDir := some "out"

def partialWorld : World where
  files := ⟨[(["maps"], .directory),
    (["maps", "key_map_user.hpp"], .file "USER_TSO_KEY_MAP".toUTF8),
    (["support"], .directory), (["support", "u_admin.json"], .file "{}".toUTF8)]⟩
  events := []

theorem failed_run_keeps_files_partial :
    ∃ e w', endIn (generate partialConfig : Run InWorld GenerationReport) partialWorld =
        (.error e, w') ∧
      (w'.files.file? ["out", "user.json"]).isSome = true ∧
      ∀ place, w'.files.file? place ≠ partialWorld.files.file? place →
        ∃ done, ConvertsFirst partialConfig partialWorld done ∧
          place ∈ fragmentPlaces partialConfig done := by
  have hfails : (match endIn (generate partialConfig) partialWorld with
      | (.error _, w') => (w'.files.file? ["out", "user.json"]).isSome
      | (.ok _, _) => false) = true := by decide +kernel
  rcases hrun : endIn (generate partialConfig) partialWorld with ⟨e | report, w'⟩ <;>
    rw [hrun] at hfails
  · exact ⟨e, w', rfl, hfails, (failed_run_keeps_files hrun).1⟩
  · cases hfails

end Generation

end TraitSchema
