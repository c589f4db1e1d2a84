import TraitSchema.Proofs.EmittedDefinitions
import TraitSchema.Proofs.SuccessfulRuns
import TraitSchema.Proofs.UnionPaths

namespace TraitSchema

namespace Json

theorem at?_uniteSchemas_of_right {left right : Json} (hr : right.Ordered) {path : List String}
    (hlength : path.length = schemaLevels) {r : Json} (h : right.at? path = some r) :
    (uniteSchemas left right).at? path = some r := by
  cases hleft : left.at? path with
  | none => exact at?_unite_of_right hr hlength.le hleft h
  | some l =>
    have hunited := at?_unite_of_both hr hlength.le hleft h
    rwa [hlength, Nat.sub_self, unite_zero] at hunited

end Json

namespace Fragment

variable {f : Fragment} {b : Bucket}

theorem get?_listing_of_mem {p : Placement} (hp : p ∈ f.placements) (withCode : Bool) :
    (f.listing p.bucket withCode).get? p.name = some (p.entry.toJson withCode) := by
  have hentry : (f.bucket p.bucket).get? p.name = some p.entry :=
    Table.get?_of_mem (Table.names_nodup (f.sorted_bucket p.bucket)) (mem_bucket.mpr hp)
  rw [get?_listing, hentry, Option.map_some]

theorem exists_placement_of_map_eq {name : String}
    (h : (f.placements.map fun p => (p.name, p.bucket)) = [(name, b)]) :
    ∃ p, f.placements = [p] ∧ p.name = name ∧ p.bucket = b := by
  obtain ⟨p, ps, hp, hpair, hnil⟩ := List.map_eq_cons_iff.mp h
  cases List.map_eq_nil_iff.mp hnil
  exact ⟨p, hp, Prod.mk.inj hpair⟩

theorem get?_listing_eq_none {name : String} (h : ∀ p ∈ f.placements, p.name ≠ name)
    (withCode : Bool) : (f.listing b withCode).get? name = none := by
  rw [get?_listing, Option.map_eq_none_iff, Table.get?_eq_none_iff]
  intro hm
  obtain ⟨⟨_, entry⟩, hentry, rfl⟩ := List.mem_map.mp hm
  exact h _ (mem_bucket.mp hentry) rfl

end Fragment

namespace Aggregate

theorem at?_document (a : Aggregate) (path : List String) :
    a.document.at? (definitionsKey :: path) = (Json.object a.definitions).at? path := by
  simp [document, Json.at?, Json.get?, Json.members?, Table.get?]

end Aggregate

namespace Generation

/-- What the schema holds in the parts of a definition that no later key map replaces. -/
theorem at?_masterSchema (base : Json) (before after : List Converted) {c : Converted} {b : Bucket}
    (hb : b ∈ c.fragment.definedBuckets)
    (hlast : Unclaimed (Fragment.definitionName c.fragment.adminType b)
      (after.map (·.fragment))) {part : String} {listing : Json}
    (hpart : (c.fragment.body b).get? part = some listing) :
    (masterSchema base (before ++ c :: after)).at?
      [definitionsKey, Fragment.definitionName c.fragment.adminType b, part] = some listing := by
  refine Json.at?_uniteSchemas_of_right (Aggregate.storable_document 0 _).ordered rfl ?_
  rw [List.map_append, List.map_cons, Aggregate.at?_document, Json.at?, Json.get?, Json.members?,
    Option.bind_some, Aggregate.get?_definitions_of_last hb hlast, Option.bind_some, Json.at?,
    hpart]
  rfl

/-- A run that succeeds writes a schema with every trait of the key maps that it discovers, each
with its entry, but for those whose definition a later key map replaces by its own of that name. -/
theorem written_schema_keeps_traits {config : Config} {w w' : World} {report : GenerationReport}
    (hrun : endIn (generate config : Run InWorld GenerationReport) w = (.ok report, w')) :
    ∃ (sources : List KeyMapSource) (between : FileTree) (master : Json),
      (endIn (discover config : Run InWorld (List KeyMapSource)) w).1 = .ok sources ∧
      ConvertsAll config w.files sources report.converted between ∧
      w'.files.file? (Path.place config.output) = some master.fileText.toUTF8 ∧
      ∀ before c after, report.converted = before ++ c :: after → ∀ p ∈ c.fragment.placements,
        (p.bucket ≠ .pattern →
          Unclaimed (Fragment.definitionName c.fragment.adminType p.bucket)
            (after.map (·.fragment)) →
          master.at? [definitionsKey, Fragment.definitionName c.fragment.adminType p.bucket,
            "properties", p.name] = some (p.entry.toJson false)) ∧
        (p.bucket = .pattern →
          Unclaimed (Fragment.definitionName c.fragment.adminType .common)
            (after.map (·.fragment)) →
          master.at? [definitionsKey, Fragment.definitionName c.fragment.adminType .common,
            "patternProperties", p.name] = some (p.entry.toJson true)) := by
  obtain ⟨sources, base, w₂, hsources, hall, -, hmaster, -⟩ := writes_of_generate hrun
  refine ⟨sources, w₂.files, masterSchema base report.converted, hsources, hall,
    hmaster.file?_singleton, ?_⟩
  intro before c after hconverted p hp
  rw [hconverted]
  constructor
  · intro hb hlast
    have hlisting := at?_masterSchema base before after
      (Fragment.bucket_mem_definedBuckets hp hb) hlast (c.fragment.get?_properties p.bucket)
    refine (Json.at?_concat _ [_, _, _] p.name).trans ?_
    rw [hlisting]
    exact Fragment.get?_listing_of_mem hp false
  · intro hb hlast
    have hpatterns : c.fragment.hasPatterns = true :=
      Fragment.hasPatterns_eq_true_iff.mpr ⟨p, hp, hb⟩
    have hpart := c.fragment.get?_patternProperties .common
    rw [if_pos ⟨by decide, hpatterns⟩] at hpart
    have hlisting := at?_masterSchema base before after
      (Fragment.common_mem_definedBuckets hpatterns) hlast hpart
    refine (Json.at?_concat _ [_, _, _] p.name).trans ?_
    rw [hlisting]
    exact hb ▸ Fragment.get?_listing_of_mem hp true

/-- The key maps of two admin types, `user` and `user_`, with a trait each. -/
def clashingWorld : World where
  files := ⟨[(["maps"], .directory),
    (["maps", "key_map_user.hpp"], .file
      "USER_B_SEGMENT_MAP
  \x7b\"b:x\", \"k\", TRAIT_TYPE_UINT, \x7btrue, false, false, false\x7d\x7d".toUTF8),
    (["maps", "key_map_user_.hpp"], .file
      "USER__B_SEGMENT_MAP
  \x7b\"b:y\", \"k\", TRAIT_TYPE_UINT, \x7btrue, false, false, false\x7d\x7d".toUTF8),
    (["support"], .directory),
    (["support", "u_admin.json"], .file
      "\x7b\"b\":\x7b\"k\":\x7b\"a\":\x7b\"alt\":true,\"extract\":true\x7d\x7d\x7d\x7d".toUTF8),
    (["base.json"], .file "\x7b\x7d".toUTF8)]⟩
  events := []

def clashingConfig : Config where
  keyMapDir := "maps"
  supportDir := "support"
  baseSchema := "base.json"
  output := "schema.json"
  mode := .strict

theorem exists_clashing_run :
    ∃ report w' c₁ c₂ p₁ p₂,
      endIn (generate clashingConfig : Run InWorld GenerationReport) clashingWorld =
        (.ok report, w') ∧ report.converted = [c₁, c₂] ∧
      (c₁.fragment.adminType = ⟨"user"⟩ ∧ c₁.fragment.placements = [p₁] ∧
        p₁.name = "b:x" ∧ p₁.bucket = .alterOnly) ∧
      (c₂.fragment.adminType = ⟨"user_"⟩ ∧ c₂.fragment.placements = [p₂] ∧
        p₂.name = "b:y" ∧ p₂.bucket = .alterOnly) := by
  have hruns : succeedsWith (fun report => report.converted.map (fun c => (c.fragment.adminType,
      c.fragment.placements.map fun p => (p.name, p.bucket))) ==
        [(⟨"user"⟩, [("b:x", .alterOnly)]), (⟨"user_"⟩, [("b:y", .alterOnly)])])
      clashingConfig clashingWorld = true := by decide +kernel
  obtain ⟨report, w', hrun, hreport⟩ := exists_of_succeedsWith hruns
  obtain ⟨c₁, rest, hconverted, h₁, hrest⟩ := List.map_eq_cons_iff.mp (eq_of_beq hreport)
  obtain ⟨c₂, rest, rfl, h₂, hnil⟩ := List.map_eq_cons_iff.mp hrest
  cases List.map_eq_nil_iff.mp hnil
  obtain ⟨ht₁, h₁⟩ := Prod.mk.inj h₁
  obtain ⟨ht₂, h₂⟩ := Prod.mk.inj h₂
  obtain ⟨p₁, hfirst⟩ := Fragment.exists_placement_of_map_eq h₁
  obtain ⟨p₂, hsecond⟩ := Fragment.exists_placement_of_map_eq h₂
  exact ⟨report, w', c₁, c₂, p₁, p₂, hrun, hconverted, ⟨ht₁, hfirst⟩, ⟨ht₂, hsecond⟩⟩

theorem definitionName_clashing :
    Fragment.definitionName ⟨"user_"⟩ .alterOnly = Fragment.definitionName ⟨"user"⟩ .alterOnly := by
  decide +kernel

theorem written_schema_keeps_traits_clashing :
    ∃ report w' master c p,
      endIn (generate clashingConfig : Run InWorld GenerationReport) clashingWorld =
        (.ok report, w') ∧
      w'.files.file? (Path.place clashingConfig.output) = some (Json.fileText master).toUTF8 ∧
      c ∈ report.converted ∧ p ∈ c.fragment.placements ∧ p.bucket ≠ .pattern ∧
      master.at? [definitionsKey, Fragment.definitionName c.fragment.adminType p.bucket,
        "properties", p.name] = some (p.entry.toJson false) := by
  obtain ⟨report, w', c₁, c₂, p₁, p₂, hrun, hconverted, -, -, hp, -, hb⟩ := exists_clashing_run
  obtain ⟨-, -, master, -, -, hfile, hkept⟩ := written_schema_keeps_traits hrun
  have hmem : p₂ ∈ c₂.fragment.placements := hp ▸ List.mem_singleton_self p₂
  have hbucket : p₂.bucket ≠ .pattern := by
    rw [hb]
    decide
  refine ⟨report, w', master, c₂, p₂, hrun, hfile, by simp [hconverted], hmem, hbucket, ?_⟩
  exact (hkept [c₁] c₂ [] hconverted p₂ hmem).1 hbucket fun _ hf => nomatch hf

/-- A strict run can lose a trait without an error: the schema that is written does not hold that of
the first of the two key maps. -/
theorem strict_run_loses_trait :
    ∃ report w' master c p,
      endIn (generate clashingConfig : Run InWorld GenerationReport) clashingWorld =
        (.ok report, w') ∧ clashingConfig.mode = .strict ∧
      w'.files.file? (Path.place clashingConfig.output) = some (Json.fileText master).toUTF8 ∧
      c ∈ report.converted ∧ p ∈ c.fragment.placements ∧ p.bucket ≠ .pattern ∧
      master.at? [definitionsKey, Fragment.definitionName c.fragment.adminType p.bucket,
        "properties", p.name] = none := by
  obtain ⟨report, w', c₁, c₂, p₁, p₂, hrun, hconverted, ⟨ht₁, hp₁, hn₁, hb₁⟩, ht₂, hp₂, hn₂, hb₂⟩ :=
    exists_clashing_run
  obtain ⟨-, base, w₂, -, -, -, hmaster, -⟩ := writes_of_generate hrun
  have hmem : p₂ ∈ c₂.fragment.placements := hp₂ ▸ List.mem_singleton_self p₂
  have hbucket : p₂.bucket ≠ .pattern := by
    rw [hb₂]
    decide
  -- the definition is that of the second key map
  have hlisting : (masterSchema base [c₁, c₂]).at? [definitionsKey,
      Fragment.definitionName c₂.fragment.adminType p₂.bucket, "properties"] =
        some (c₂.fragment.listing p₂.bucket false) :=
    at?_masterSchema base [c₁] [] (Fragment.bucket_mem_definedBuckets hmem hbucket)
      (fun _ hf => nomatch hf) (c₂.fragment.get?_properties p₂.bucket)
  have hnone : (c₂.fragment.listing p₂.bucket false).get? p₁.name = none := by
    refine Fragment.get?_listing_eq_none (fun p hp => ?_) false
    rw [hp₂] at hp
    rw [List.mem_singleton.mp hp, hn₁, hn₂]
    decide
  refine ⟨report, w', masterSchema base report.converted, c₁, p₁, hrun, rfl,
    hmaster.file?_singleton, by simp [hconverted], hp₁ ▸ List.mem_singleton_self p₁, ?_, ?_⟩
  · rw [hb₁]
    decide
  · refine (Json.at?_concat _ [_, _, _] p₁.name).trans ?_
    rw [ht₁, hb₁, ← definitionName_clashing, ← ht₂, ← hb₂, hconverted, hlisting]
    exact hnone

end Generation

end TraitSchema
