import TraitSchema.Proofs.FileListings
import TraitSchema.Proofs.RunOutcomes

namespace TraitSchema

section Outcomes

variable {ε ε' α β : Type} {shows : FileTree → FileTree → Prop}
  {step : ExceptT ε InWorld α} {next : α → ExceptT ε InWorld β} {w w' v : World}

/-- The step changes no file. When it succeeds on one tree of files, it does so with the same
outcome on every tree that shows the same. -/
structure ReadsOnly (shows : FileTree → FileTree → Prop) (step : ExceptT ε InWorld α) : Prop where
  keeps : ∀ w, (endIn step w).2.files = w.files
  again : ∀ w v x, shows w.files v.files → (endIn step w).1 = .ok x → (endIn step v).1 = .ok x

theorem ReadsOnly.files_eq (h : ReadsOnly shows step) {r : Except ε α}
    (hs : endIn step w = (r, w')) : w'.files = w.files := by
  have hw := h.keeps w
  rwa [hs] at hw

theorem ReadsOnly.keepsFiles (h : ReadsOnly shows step) : KeepsFiles step :=
  fun w place _ => congrArg (FileTree.file? · place) (h.keeps w)

theorem ReadsOnly.succeeds (h : ReadsOnly shows step) (hshows : shows w.files v.files) {x : α}
    (hs : endIn step w = (.ok x, w')) :
    ∃ v', endIn step v = (.ok x, v') ∧ v'.files = v.files :=
  ⟨(endIn step v).2, Prod.ext (h.again w v x hshows (congrArg Prod.fst hs)) rfl, h.keeps v⟩

theorem readsOnly_pure (x : α) : ReadsOnly shows (pure x : ExceptT ε InWorld α) :=
  ⟨fun _ => rfl, fun _ _ _ _ h => h⟩

theorem readsOnly_throw (e : ε) : ReadsOnly shows (throw e : ExceptT ε InWorld α) :=
  ⟨fun _ => rfl, fun _ _ _ _ h => h⟩

theorem readsOnly_ofExcept (r : Except ε α) :
    ReadsOnly shows (ExceptT.mk (pure r) : ExceptT ε InWorld α) :=
  ⟨fun _ => rfl, fun _ _ _ _ h => h⟩

theorem ReadsOnly.bind (h : ReadsOnly shows step) (hn : ∀ x, ReadsOnly shows (next x)) :
    ReadsOnly shows (step >>= next) where
  keeps w := by
    have hw := h.keeps w
    rw [endIn_bind]
    rcases hs : endIn step w with ⟨e | x, w₁⟩ <;> rw [hs] at hw
    · exact hw
    · exact ((hn x).keeps w₁).trans hw
  again w v y hshows hy := by
    obtain ⟨x, w₁, hs, hnext⟩ := ok_of_bind (Prod.ext hy rfl)
    obtain ⟨v₁, hv, hfiles⟩ := h.succeeds hshows hs
    rw [endIn_bind_of_ok hv]
    refine (hn x).again w₁ v₁ y ?_ (congrArg Prod.fst hnext)
    rwa [h.files_eq hs, hfiles]

theorem ReadsOnly.adapt (h : ReadsOnly shows step) (f : ε → ε') :
    ReadsOnly shows (ExceptT.adapt f step) where
  keeps := h.keeps
  again w v x hshows hx := by
    obtain ⟨v', hv, -⟩ := h.succeeds hshows (endIn_adapt_eq_ok_iff.mp (Prod.ext hx rfl))
    exact congrArg Prod.fst (endIn_adapt_eq_ok_iff.mpr hv)

theorem readsOnly_forM {f : α → ExceptT ε InWorld PUnit} (h : ∀ x, ReadsOnly shows (f x))
    (xs : List α) : ReadsOnly shows (xs.forM f) := by
  induction xs with
  | nil => exact readsOnly_pure PUnit.unit
  | cons x xs ih => exact (h x).bind fun _ => ih

end Outcomes

namespace FileTree

/-- Every text that can be read under these paths in one tree can be read in the other. -/
def ShowsTexts (paths : List String) (t u : FileTree) : Prop :=
  ∀ path ∈ paths, ∀ text, t.readText path = .ok text → u.readText path = .ok text

/-- If the directory can be listed in one tree, it can be in the other and has the same files. -/
def ShowsFiles (directory : String) (t u : FileTree) : Prop :=
  ∀ entries, t.list directory = .ok entries →
    ∃ entries', u.list directory = .ok entries' ∧ entries'.filter (·.2) = entries.filter (·.2)

variable {places : Set (List String)} {t u : FileTree}

theorem Grows.showsTexts (h : Grows places t u) {paths : List String}
    (hp : ∀ path ∈ paths, Path.place path ∉ places) : ShowsTexts paths t u :=
  fun path hm _ hr => h.readText hr (h.file?_eq (hp path hm))

theorem Grows.showsFiles (h : Grows places t u) {directory : String}
    (hp : ∀ place ∈ places, ∀ name, place ≠ Path.place directory ++ [name]) :
    ShowsFiles directory t u :=
  fun _ hl => h.list hp hl

end FileTree

theorem mapError_eq_ok_iff {ε ε' α : Type} {f : ε → ε'} {r : Except ε α} {x : α} :
    r.mapError f = .ok x ↔ r = .ok x := by
  cases r <;> simp [Except.mapError]

/-- Reads a text, with what a reason of the file is turned into. -/
def readingText {ε : Type} (f : FileError → ε) (path : String) : ExceptT ε InWorld String :=
  ExceptT.mk (Except.mapError f <$> (FileAccess.readText path : InWorld _))

theorem endIn_readingText {ε : Type} (f : FileError → ε) (path : String) (w : World) :
    endIn (readingText f path) w = ((w.files.readText path).mapError f, w) := rfl

theorem endIn_readingText_eq_ok_iff {ε : Type} {f : FileError → ε} {path text : String}
    {w w' : World} :
    endIn (readingText f path) w = (.ok text, w') ↔ w.files.readText path = .ok text ∧ w = w' := by
  rw [endIn_readingText, Prod.mk.injEq, mapError_eq_ok_iff]

theorem readsOnly_readingText {ε : Type} (f : FileError → ε) {path : String} {paths : List String}
    (hp : path ∈ paths) : ReadsOnly (FileTree.ShowsTexts paths) (readingText f path) where
  keeps _ := rfl
  again _ _ text hshows hw :=
    mapError_eq_ok_iff.mpr (hshows path hp text (mapError_eq_ok_iff.mp hw))

namespace Task

theorem readsOnly_orFail {α : Type} {shows : FileTree → FileTree → Prop} (e : SchemaError)
    (x? : Option α) : ReadsOnly shows (orFail e x? : Task InWorld α) := by
  cases x? with
  | none => exact readsOnly_throw e
  | some x => exact readsOnly_pure x

theorem readsOnly_readJson {path : String} {paths : List String} (hp : path ∈ paths) :
    ReadsOnly (FileTree.ShowsTexts paths) (readJson path : Task InWorld Json) :=
  (readsOnly_readingText _ hp).bind fun _ => readsOnly_orFail _ _

theorem readsOnly_loadMatrix (adminType : AdminType) {path : String} {paths : List String}
    (hp : path ∈ paths) :
    ReadsOnly (FileTree.ShowsTexts paths)
      (loadMatrix adminType path : Task InWorld MatrixDocument) :=
  (readsOnly_readJson hp).bind fun _ => readsOnly_ofExcept _

end Task

namespace Generation

section Shown

variable {shows : FileTree → FileTree → Prop}

theorem readsOnly_report (event : Event) :
    ReadsOnly shows (report event : Run InWorld Unit) :=
  ⟨fun _ => rfl, fun _ _ _ _ h => h⟩

theorem readsOnly_follow {α : Type} (context : SchemaError → RunError) (trace : Traced α) :
    ReadsOnly shows (follow context trace : Run InWorld α) :=
  (readsOnly_forM readsOnly_report trace.events).bind fun _ => readsOnly_ofExcept _

theorem readsOnly_requireExtension (mode : Mode) (path expected : String) :
    ReadsOnly shows (requireExtension mode path expected : Run InWorld Unit) := by
  rw [requireExtension]
  split
  · exact readsOnly_pure ()
  · exact readsOnly_follow .schema _

end Shown

/-- The path of the support matrix for a key map. -/
def matrixPath (config : Config) (adminType : AdminType) : String :=
  Path.join config.supportDir adminType.supportFile

/-- Reads a key map and its support matrix and converts it. -/
def readKeyMap (config : Config) (source : KeyMapSource) : Run InWorld (Fragment × Nat) := do
  let adminType := source.adminType
  requireExtension config.mode source.path "hpp"
  report (.converting adminType source.path)
  let document ← during (.matrix adminType)
    (Task.loadMatrix adminType (Path.join config.supportDir adminType.supportFile))
  let text ← onFile (.unreadable source.path) (FileAccess.readText source.path)
  let conversion : Conversion := ⟨config.mode, adminType, document.matrix adminType⟩
  follow (.conversion source.path) (conversion.run text.toList)

theorem readsOnly_readKeyMap (config : Config) (source : KeyMapSource) :
    ReadsOnly (FileTree.ShowsTexts [matrixPath config source.adminType, source.path])
      (readKeyMap config source) := by
  refine (readsOnly_requireExtension _ _ _).bind fun _ => (readsOnly_report _).bind fun _ => ?_
  refine ((Task.readsOnly_loadMatrix source.adminType List.mem_cons_self).adapt
    (RunError.matrix source.adminType)).bind fun document => ?_
  refine (readsOnly_readingText (RunError.unreadable source.path)
    (List.mem_cons_of_mem _ List.mem_cons_self)).bind fun text => ?_
  exact readsOnly_follow (.conversion source.path) _

theorem readsOnly_loadBase (config : Config) :
    ReadsOnly (FileTree.ShowsTexts [config.baseSchema]) (loadBase config : Run InWorld Json) := by
  refine ((Task.readsOnly_readJson List.mem_cons_self).adapt RunError.schema).bind fun base => ?_
  split
  · exact readsOnly_pure base
  · exact readsOnly_throw _

/-- The key map that an entry of the directory is, if it is one. -/
def keyMapSource? (config : Config) (entry : String × Bool) : Option KeyMapSource :=
  if !entry.2 || config.isIgnored entry.1 then none
  else (AdminType.ofFileName? entry.1).map fun adminType =>
    ⟨adminType, Path.join config.keyMapDir entry.1⟩

theorem endIn_source? (config : Config) (entry : String × Bool) (w : World) :
    ∃ w', endIn (source? config entry.1 entry.2 : Run InWorld (Option KeyMapSource)) w =
      (.ok (keyMapSource? config entry), w') ∧ w'.files = w.files := by
  obtain ⟨name, isFile⟩ := entry
  cases isFile with
  | false => exact ⟨w, rfl, rfl⟩
  | true =>
    rw [source?, keyMapSource?]
    cases config.isIgnored name with
    | true => exact ⟨_, rfl, rfl⟩
    | false => cases AdminType.ofFileName? name <;> exact ⟨_, rfl, rfl⟩

theorem endIn_filterMapM_source? (config : Config) (entries : Table Bool) (w : World) :
    ∃ w', endIn (entries.filterMapM fun (name, isFile) => source? config name isFile :
        Run InWorld (List KeyMapSource)) w =
      (.ok (entries.filterMap (keyMapSource? config)), w') ∧ w'.files = w.files := by
  induction entries generalizing w with
  | nil => exact ⟨w, rfl, rfl⟩
  | cons entry entries ih =>
    obtain ⟨w₁, hfirst, hfiles⟩ := endIn_source? config entry w
    obtain ⟨w₂, hrest, hfiles'⟩ := ih w₁
    rw [List.filterMapM_cons, endIn_bind_of_ok hfirst]
    cases hsource : keyMapSource? config entry with
    | none =>
      refine ⟨w₂, ?_, hfiles'.trans hfiles⟩
      rw [List.filterMap_cons_none hsource]
      exact hrest
    | some source =>
      refine ⟨w₂, ?_, hfiles'.trans hfiles⟩
      rw [List.filterMap_cons_some hsource]
      exact endIn_bind_of_ok hrest

/-- The key maps of a run are found among the entries of the directory, in their order. -/
theorem endIn_discover (config : Config) (w : World) :
    ∃ w', endIn (discover config : Run InWorld (List KeyMapSource)) w =
      (((w.files.list config.keyMapDir).map fun entries =>
        entries.filterMap (keyMapSource? config)).mapError (.discovery config.keyMapDir), w') ∧
      w'.files = w.files := by
  have hlist : endIn (onFile (.discovery config.keyMapDir) (FileAccess.list config.keyMapDir) :
      Run InWorld (Table Bool)) w =
        ((w.files.list config.keyMapDir).mapError (.discovery config.keyMapDir), w) := rfl
  rw [discover, endIn_bind, hlist]
  cases w.files.list config.keyMapDir with
  | error e => exact ⟨w, rfl, rfl⟩
  | ok entries => exact endIn_filterMapM_source? config entries w

theorem discover_eq_ok_iff {config : Config} {w : World} {sources : List KeyMapSource} :
    (endIn (discover config : Run InWorld (List KeyMapSource)) w).1 = .ok sources ↔ ∃ entries,
      w.files.list config.keyMapDir = .ok entries ∧
        sources = entries.filterMap (keyMapSource? config) := by
  obtain ⟨w', h, -⟩ := endIn_discover config w
  rw [h, mapError_eq_ok_iff]
  cases w.files.list config.keyMapDir <;> simp [Except.map, eq_comm]

/-- What is no file is no key map. -/
theorem filterMap_keyMapSource?_filter (config : Config) (entries : Table Bool) :
    (entries.filter (·.2)).filterMap (keyMapSource? config) =
      entries.filterMap (keyMapSource? config) := by
  rw [List.filterMap_filter]
  refine List.filterMap_congr fun entry _ => ?_
  cases hfile : entry.2 <;> simp [keyMapSource?, hfile]

theorem readsOnly_discover (config : Config) :
    ReadsOnly (FileTree.ShowsFiles config.keyMapDir)
      (discover config : Run InWorld (List KeyMapSource)) where
  keeps w := by
    obtain ⟨w', h, hfiles⟩ := endIn_discover config w
    rw [h, hfiles]
  again w v sources hshows hw := by
    obtain ⟨entries, hl, rfl⟩ := discover_eq_ok_iff.mp hw
    obtain ⟨entries', hl', hsame⟩ := hshows entries hl
    refine discover_eq_ok_iff.mpr ⟨entries', hl', ?_⟩
    rw [← filterMap_keyMapSource?_filter config entries, ← hsame,
      filterMap_keyMapSource?_filter]

/-- The key maps that a run converts. -/
def plan (config : Config) : Run InWorld (List KeyMapSource) := do
  requireExtension config.mode config.output "json"
  let sources ← discover config
  if sources.isEmpty then report (.noSources config.keyMapDir)
  return sources

theorem readsOnly_plan (config : Config) :
    ReadsOnly (FileTree.ShowsFiles config.keyMapDir) (plan config) := by
  refine (readsOnly_requireExtension _ _ _).bind fun _ => (readsOnly_discover config).bind ?_
  intro sources
  split
  · exact (readsOnly_report _).bind fun _ => readsOnly_pure sources
  · exact readsOnly_pure sources

/-- The key maps that a run converts are those that are discovered. -/
theorem discover_of_plan {config : Config} {w w' : World} {sources : List KeyMapSource}
    (h : endIn (plan config) w = (.ok sources, w')) :
    (endIn (discover config : Run InWorld (List KeyMapSource)) w).1 = .ok sources := by
  obtain ⟨_, w₁, hext, h⟩ := ok_of_bind h
  obtain ⟨found, w₂, hfound, h⟩ := ok_of_bind h
  have hreads : ReadsOnly Eq
      (requireExtension config.mode config.output "json" : Run InWorld Unit) :=
    readsOnly_requireExtension _ _ _
  have hfiles : w₁.files = w.files := hreads.files_eq hext
  have hsources : found = sources := by
    split at h
    · cases h
      rfl
    · cases h
      rfl
  rw [discover_eq_ok_iff, ← hfiles, ← discover_eq_ok_iff, hfound, hsources]

end Generation

end TraitSchema
