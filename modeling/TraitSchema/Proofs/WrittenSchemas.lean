import TraitSchema.Proofs.SuccessfulRuns

namespace TraitSchema.Generation

open FileTree

variable {config : Config}

theorem json?_baseSchema_of_writes {converted : List Converted} {t u : FileTree}
    (h : Writes (converted.flatMap writesOf) t u)
    (hapart : ∀ c ∈ converted, ∀ path, c.file = some path →
      Path.place path ≠ Path.place config.baseSchema) :
    u.json? config.baseSchema = t.json? config.baseSchema := by
  refine json?_congr (h.grows.file?_eq fun hm => ?_)
  obtain ⟨c, hc, path, hpath, he⟩ := mem_placesOf_writesOf.mp hm
  exact hapart c hc path hpath he.symm

/-- A document that a file can hold is read back as it was written. After a run that succeeds, the
union of the base schema and of the definitions of its fragments is read from the output, and the
check of the output is that of this union. -/
theorem written_schema_is_checked :
    (∀ (path : String) (value : Json) (w w' : World),
      Json.Storable Json.nestingLimit value →
      endIn (Task.writeJson path value : Task InWorld Unit) w = (.ok (), w') →
        endIn (Task.readJson path : Task InWorld Json) w' = (.ok value, w')) ∧
    ∀ (config : Config) (w w' : World) (report : GenerationReport),
      endIn (generate config : Run InWorld GenerationReport) w = (.ok report, w') →
      (∀ c ∈ report.converted, ∀ path, c.file = some path →
        Path.place path ≠ Path.place config.baseSchema) →
      (∀ base, w.files.json? config.baseSchema = some base → base.Integral) →
        ∃ sources between base,
          (endIn (discover config : Run InWorld (List KeyMapSource)) w).1 = .ok sources ∧
          ConvertsAll config w.files sources report.converted between ∧
          w.files.json? config.baseSchema = some base ∧
          let master := Json.uniteSchemas base
            (Aggregate.ofFragments (report.converted.map (·.fragment))).document
          endIn (Task.readJson config.output : Task InWorld Json) w' = (.ok master, w') ∧
          endIn (Conformance.validateFile config.output : Run InWorld Conformance.Report) w' =
            (.ok (Conformance.validate master), w') := by
  refine ⟨fun path value w w' hv => Task.readJson_of_writeJson hv, ?_⟩
  intro config w w' report hrun hapart hintegral
  obtain ⟨sources, base, w₂, hsources, hall, hbase, hmaster, hsettled⟩ := writes_of_generate hrun
  have hjson := (loadBase_eq_ok_iff.mp hbase).1.2.1
  rw [json?_baseSchema_of_writes hall.writes hapart] at hjson
  have hstorable := storable_masterSchema (storable_of_json? hjson (hintegral base hjson))
    report.converted
  have hread : endIn (Task.readJson config.output : Task InWorld Json) w' =
      (.ok (masterSchema base report.converted), w') :=
    Task.readJson_eq_ok_iff.mpr
      ⟨⟨hsettled.readable, json?_of_file? hstorable hmaster.file?_singleton⟩, rfl⟩
  exact ⟨sources, w₂.files, base, hsources, hall, hjson, hread,
    Conformance.validateFile_of_readJson hread⟩

def titleSchema : Json := .object [("title", .string "base")]

/-- A key map with one trait, its support matrix and a base schema. -/
def smallWorld : World where
  files := ⟨[(["maps"], .directory),
    (["maps", "key_map_user.hpp"], .file
      "USER_BASE_SEGMENT_MAP
  \x7b\"base:size\", \"size\", TRAIT_TYPE_UINT, \x7btrue, false, false, false\x7d\x7d".toUTF8),
    (["support"], .directory),
    (["support", "u_admin.json"], .file
      "\x7b\"base\": \x7b\"size\": \x7b\"a\": \x7b\"add\": true, \"extract\": true\x7d\x7d\x7d\x7d".toUTF8),
    (["base.json"], .file "\x7b\"title\": \"base\"\x7d".toUTF8)]⟩
  events := []

def smallConfig : Config where
  keyMapDir := "maps"
  supportDir := "support"
  baseSchema := "base.json"
  output := "out/schema.json"
  fragmentsDir := some "out"

theorem json?_smallWorld : smallWorld.files.json? "base.json" = some titleSchema := rfl

theorem storable_titleSchema : Json.Storable Json.nestingLimit titleSchema :=
  Json.storable_object (List.pairwise_singleton _ _) fun _ hm =>
    List.mem_singleton.mp hm ▸ Json.storable_string _ _

theorem written_schema_is_checked_small :
    (∃ w', endIn (Task.writeJson "copy.json" titleSchema : Task InWorld Unit) smallWorld =
        (.ok (), w') ∧
      endIn (Task.readJson "copy.json" : Task InWorld Json) w' = (.ok titleSchema, w')) ∧
    ∃ report w', endIn (generate smallConfig : Run InWorld GenerationReport) smallWorld =
        (.ok report, w') ∧
      ∃ master, endIn (Task.readJson "out/schema.json" : Task InWorld Json) w' =
          (.ok master, w') ∧
        endIn (Conformance.validateFile "out/schema.json" : Run InWorld Conformance.Report) w' =
          (.ok (Conformance.validate master), w') := by
  have hwrites : (endIn (Task.writeJson "copy.json" titleSchema : Task InWorld Unit)
      smallWorld).1.isOk = true := by decide +kernel
  have hruns : succeedsWith (fun report => report.converted.all fun c => c.file.all fun path =>
      Path.place path != Path.place smallConfig.baseSchema) smallConfig smallWorld = true := by
    decide +kernel
  obtain ⟨hcopy, hmaster⟩ := written_schema_is_checked
  constructor
  · rcases hrun : endIn (Task.writeJson "copy.json" titleSchema) smallWorld with ⟨e | ⟨⟩, w'⟩ <;>
      rw [hrun] at hwrites
    · cases hwrites
    · exact ⟨w', rfl, hcopy _ _ _ _ storable_titleSchema hrun⟩
  · obtain ⟨report, w', hrun, hfiles⟩ := exists_of_succeedsWith hruns
    have hapart : ∀ c ∈ report.converted, ∀ path, c.file = some path →
        Path.place path ≠ Path.place smallConfig.baseSchema := by
      intro c hc path hpath
      have hall := List.all_eq_true.mp hfiles c hc
      rw [hpath] at hall
      exact bne_iff_ne.mp hall
    have hintegral : ∀ base, smallWorld.files.json? smallConfig.baseSchema = some base →
        base.Integral := by
      intro base hbase
      cases hbase.symm.trans json?_smallWorld
      exact storable_titleSchema.integral
    obtain ⟨_, _, base, -, -, -, hread, hcheck⟩ := hmaster _ _ _ _ hrun hapart hintegral
    exact ⟨report, w', hrun, _, hread, hcheck⟩

end TraitSchema.Generation
