import TraitSchema.Proofs.DefinitionBodies

namespace TraitSchema

namespace Table

variable {α : Type}

theorem mem_names_ofList {pairs : List (String × α)} {name : String} :
    name ∈ (ofList pairs).names ↔ name ∈ names pairs := by
  rw [← not_iff_not, ← get?_eq_none_iff, get?_ofList, get?_eq_none_iff, names_reverse,
    List.mem_reverse]

theorem ofList_eq_of_perm {pairs others : List (String × α)} (hn : (names pairs).Nodup)
    (h : others.Perm pairs) : ofList others = ofList pairs := by
  have hn' : (names others).Nodup := (h.map _).nodup_iff.mpr hn
  refine eq_of_mem_iff (sorted_ofList others) (sorted_ofList pairs) fun pair => ?_
  rw [mem_ofList hn', mem_ofList hn, h.mem_iff]

theorem eq_of_mem_names_iff {t u : Table Unit} (ht : t.Sorted) (hu : u.Sorted)
    (h : ∀ name, name ∈ t.names ↔ name ∈ u.names) : t = u := by
  refine eq_of_get?_eq ht hu fun name => ?_
  have hnone : t.get? name = none ↔ u.get? name = none := by
    rw [get?_eq_none_iff, get?_eq_none_iff, h]
  cases htn : t.get? name <;> cases hun : u.get? name <;> simp_all

end Table

namespace TraitEntry

/-- The value shows the entry, with its code if that is asked for, and nothing else. -/
structure Shown (entry : TraitEntry) (withCode : Bool) (value : Json) : Prop where
  object : value.isObject = true
  key : value.get? "racfKey" = some (.string entry.key)
  type : value.get? "$ref" = some (.string (SharedType.reference entry.type))
  mark : value.get? "pseudoBoolean" = if entry.pseudoBoolean then some (.bool true) else none
  code : value.get? codeKey = if withCode then entry.code.map Json.string else none
  others : ∀ key, key ∉ ["racfKey", "$ref", "pseudoBoolean", codeKey] → value.get? key = none

theorem shown_toJson (entry : TraitEntry) (withCode : Bool) :
    entry.Shown withCode (entry.toJson withCode) := by
  obtain ⟨key, type, mark, code⟩ := entry
  constructor
  case object => rfl
  case others =>
    intro other hother
    simp only [List.mem_cons, List.not_mem_nil, or_false, not_or] at hother
    rw [toJson, Json.get?_ofMembers]
    cases mark <;> cases code <;> cases withCode <;> simp [Table.get?, hother]
  all_goals
    rw [toJson, Json.get?_ofMembers]
    cases mark <;> cases code <;> cases withCode <;> rfl

end TraitEntry

/-- The value lists these entries, each under its name, and nothing else. -/
structure Lists (entries : Table TraitEntry) (withCode : Bool) (value : Json) : Prop where
  object : value.isObject = true
  shown : ∀ name entry, entries.get? name = some entry →
    ∃ json, value.get? name = some json ∧ entry.Shown withCode json
  others : ∀ name, entries.get? name = none → value.get? name = none

namespace Fragment

variable {f : Fragment} {b : Bucket} {name : String}

/-- The fragment emits a definition for the bucket under this name: the bucket holds traits, or it
is the common one and the fragment has families. -/
def Emits (f : Fragment) (b : Bucket) (name : String) : Prop :=
  ∃ ending, b.suffix? = some ending ∧ name = f.adminType.camelName ++ ending ∧
    (f.bucket b ≠ [] ∨ b = .common ∧ f.bucket .pattern ≠ [])

/-- The value is the definition for a bucket that requests are checked against. It lists the traits
of the bucket without their codes, the families of the fragment with theirs if there are any, and
lets no other names in. -/
structure IsClosedDefinition (f : Fragment) (b : Bucket) (value : Json) : Prop where
  traits : ∃ listing, value.get? "properties" = some listing ∧ Lists (f.bucket b) false listing
  families : f.bucket .pattern ≠ [] → ∃ listing,
    value.get? "patternProperties" = some listing ∧ Lists (f.bucket .pattern) true listing
  noFamilies : f.bucket .pattern = [] → value.get? "patternProperties" = none
  closed : value.get? "additionalProperties" = some (.bool false)
  others : ∀ key, key ∉ ["properties", "patternProperties", "additionalProperties"] →
    value.get? key = none

/-- The value is the definition for the traits that can only be read: it lists these without codes
and says nothing else. -/
structure IsOpenDefinition (f : Fragment) (value : Json) : Prop where
  traits : ∃ listing, value.get? "properties" = some listing ∧
    Lists (f.bucket .extractOnly) false listing
  others : ∀ key, key ≠ "properties" → value.get? key = none

/-- The value is the definition that the fragment has for the bucket. -/
def IsDefinition (f : Fragment) (b : Bucket) (value : Json) : Prop :=
  if b = .extractOnly then f.IsOpenDefinition value else f.IsClosedDefinition b value

theorem hasPatterns_iff : f.hasPatterns = true ↔ f.bucket .pattern ≠ [] := by
  simp [hasPatterns]

theorem emits_iff :
    f.Emits b name ↔ b ∈ f.definedBuckets ∧ name = definitionName f.adminType b := by
  constructor
  · rintro ⟨ending, hb, rfl, hholds⟩
    refine ⟨mem_definedBuckets.mpr ⟨?_, by rwa [hasPatterns_iff]⟩, ?_⟩
    · rintro rfl
      cases hb
    · rw [definitionName, hb, Option.getD_some]
  · rintro ⟨hb, rfl⟩
    obtain ⟨ending, he, hn⟩ := exists_suffix?_of_mem_definedBuckets hb
    have hholds := (mem_definedBuckets.mp hb).2
    rw [hasPatterns_iff] at hholds
    exact ⟨ending, he, hn, hholds⟩

theorem mem_names_definitions_iff_emits :
    name ∈ Table.names f.definitions ↔ ∃ b, f.Emits b name := by
  simp only [mem_names_definitions, emits_iff]

theorem lists_listing (f : Fragment) (b : Bucket) (withCode : Bool) :
    Lists (f.bucket b) withCode (f.listing b withCode) := by
  refine ⟨rfl, fun name entry hentry => ⟨entry.toJson withCode, ?_, entry.shown_toJson withCode⟩,
    fun name hnone => ?_⟩
  · rw [get?_listing, hentry, Option.map_some]
  · rw [get?_listing, hnone, Option.map_none]

theorem isClosedDefinition_body (hb : b ≠ .extractOnly) : f.IsClosedDefinition b (f.body b) := by
  have hpatterns := f.get?_patternProperties b
  have hclosure := f.get?_closureKey b
  rw [if_neg hb] at hclosure
  refine ⟨⟨_, f.get?_properties b, f.lists_listing b false⟩, fun hne => ?_, fun hempty => ?_,
    hclosure, fun key hkey => ?_⟩
  · rw [if_pos ⟨hb, hasPatterns_iff.mpr hne⟩] at hpatterns
    exact ⟨_, hpatterns, f.lists_listing .pattern true⟩
  · rwa [if_neg fun h => hasPatterns_iff.mp h.2 hempty] at hpatterns
  · simp only [List.mem_cons, List.not_mem_nil, or_false, not_or] at hkey
    rw [body, if_neg hb, closedBody, Json.get?_ofMembers]
    cases f.hasPatterns <;> simp [Table.get?, hkey]

theorem isOpenDefinition_body (f : Fragment) : f.IsOpenDefinition (f.body .extractOnly) := by
  refine ⟨⟨_, f.get?_properties .extractOnly, f.lists_listing .extractOnly false⟩,
    fun key hkey => ?_⟩
  rw [body, if_pos rfl, openBody, Json.get?_ofMembers]
  simp [Table.get?, hkey]

theorem isDefinition_body (f : Fragment) (b : Bucket) : f.IsDefinition b (f.body b) := by
  rw [IsDefinition]
  split
  next hb => exact hb ▸ f.isOpenDefinition_body
  next hb => exact isClosedDefinition_body hb

theorem get?_definitions_reverse (hb : b ∈ f.definedBuckets) :
    Table.get? f.definitions.reverse (definitionName f.adminType b) = some (f.body b) := by
  have hdistinct : (Table.names (List.flatMap definitions [f])).Nodup :=
    names_definitions_nodup (List.nodup_singleton _)
  rw [List.flatMap_singleton] at hdistinct
  refine Table.get?_of_mem ?_ (List.mem_reverse.mpr (List.mem_map.mpr ⟨b, hb, rfl⟩))
  rw [Table.names_reverse]
  exact List.nodup_reverse.mpr hdistinct

theorem mem_codes {code : String} :
    code ∈ f.codes ↔ ∃ b, b ≠ .extractOnly ∧ ∃ name entry, (f.bucket b).get? name = some entry ∧
      entry.code = some code := by
  simp only [codes, List.mem_filterMap, List.mem_filter, decide_eq_true_eq,
    Table.get?_eq_some_iff (Table.names_nodup (f.sorted_bucket _)), mem_bucket]
  constructor
  · rintro ⟨p, ⟨hp, hb⟩, hcode⟩
    exact ⟨p.bucket, hb, p.name, p.entry, hp, hcode⟩
  · rintro ⟨b, hb, name, entry, hp, hcode⟩
    exact ⟨_, ⟨hp, hb⟩, hcode⟩

end Fragment

/-- None of the fragments has a definition of this name. -/
def Unclaimed (name : String) (fragments : List Fragment) : Prop :=
  ∀ f ∈ fragments, name ∉ Table.names f.definitions

namespace Aggregate

theorem get?_definitions_add (a : Aggregate) (f : Fragment) (name : String) :
    (a.add f).definitions.get? name =
      (Table.get? f.definitions.reverse name).or (a.definitions.get? name) :=
  Table.get?_foldl_put f.definitions a.definitions name

theorem get?_definitions_add_of_mem (a : Aggregate) {f : Fragment} {b : Bucket}
    (hb : b ∈ f.definedBuckets) :
    (a.add f).definitions.get? (Fragment.definitionName f.adminType b) = some (f.body b) := by
  rw [get?_definitions_add, Fragment.get?_definitions_reverse hb, Option.some_or]

theorem get?_definitions_add_of_not_mem (a : Aggregate) {f : Fragment} {name : String}
    (h : name ∉ Table.names f.definitions) :
    (a.add f).definitions.get? name = a.definitions.get? name := by
  have hnone : Table.get? f.definitions.reverse name = none := by
    rwa [Table.get?_eq_none_iff, Table.names_reverse, List.mem_reverse]
  rw [get?_definitions_add, hnone, Option.none_or]

theorem get?_definitions_foldl_add (a : Aggregate) {fragments : List Fragment} {name : String}
    (h : Unclaimed name fragments) :
    (fragments.foldl add a).definitions.get? name = a.definitions.get? name := by
  induction fragments generalizing a with
  | nil => rfl
  | cons f fragments ih =>
    obtain ⟨hf, hrest⟩ := List.forall_mem_cons.mp h
    rw [List.foldl_cons, ih (a.add f) hrest, get?_definitions_add_of_not_mem a hf]

/-- The last fragment with a definition of a name decides what is held under it. -/
theorem get?_definitions_of_last {before after : List Fragment} {f : Fragment} {b : Bucket}
    (hb : b ∈ f.definedBuckets)
    (hlast : Unclaimed (Fragment.definitionName f.adminType b) after) :
    (ofFragments (before ++ f :: after)).definitions.get?
      (Fragment.definitionName f.adminType b) = some (f.body b) := by
  rw [ofFragments, List.foldl_append, List.foldl_cons, get?_definitions_foldl_add _ hlast,
    get?_definitions_add_of_mem _ hb]

theorem mem_names_definitions {fragments : List Fragment} {name : String} :
    name ∈ (ofFragments fragments).definitions.names ↔
      ∃ f ∈ fragments, ∃ b, f.Emits b name := by
  rw [definitions_ofFragments, Table.mem_names_ofList, Table.names, List.map_flatMap,
    List.mem_flatMap]
  simp only [← Fragment.mem_names_definitions_iff_emits]
  rfl

theorem codes_foldl_add (fragments : List Fragment) (a : Aggregate) :
    (fragments.foldl add a).codes =
      (fragments.flatMap Fragment.codes).foldl (fun t code => t.put code ()) a.codes := by
  induction fragments generalizing a with
  | nil => rfl
  | cons f fragments ih =>
    rw [List.foldl_cons, ih, List.flatMap_cons, List.foldl_append]
    rfl

theorem codes_ofFragments (fragments : List Fragment) :
    (ofFragments fragments).codes =
      Table.ofList ((fragments.flatMap Fragment.codes).map fun code => (code, ())) := by
  rw [Table.ofList, List.foldl_map]
  exact codes_foldl_add fragments empty

theorem mem_names_codes {fragments : List Fragment} {code : String} :
    code ∈ (ofFragments fragments).codes.names ↔ ∃ f ∈ fragments, code ∈ f.codes := by
  rw [codes_ofFragments, Table.mem_names_ofList, Table.names, List.map_map, ← List.mem_flatMap]
  simp

/-- Fragments whose definitions are named apart may be aggregated in any order. -/
theorem ofFragments_eq_of_perm {fragments others : List Fragment}
    (hdistinct : (fragments.map (·.adminType.camelName)).Nodup) (h : others.Perm fragments) :
    ofFragments others = ofFragments fragments := by
  have hdefinitions : (ofFragments others).definitions = (ofFragments fragments).definitions := by
    rw [definitions_ofFragments, definitions_ofFragments]
    exact Table.ofList_eq_of_perm (names_definitions_nodup hdistinct) (h.flatMap_right _)
  have hcodes : (ofFragments others).codes = (ofFragments fragments).codes := by
    have hsorted : ∀ fs : List Fragment, (ofFragments fs).codes.Sorted := fun fs => by
      rw [codes_ofFragments]
      exact Table.sorted_ofList _
    refine Table.eq_of_mem_names_iff (hsorted others) (hsorted fragments) fun code => ?_
    simp only [mem_names_codes, h.mem_iff]
  exact congrArg₂ Aggregate.mk hdefinitions hcodes

/-- The definitions of a list of fragments are those that its fragments emit, and under each name
stands that of the last fragment which emits it. The codes are those of all traits that requests are
checked against, also where a definition has been replaced. Fragments whose definitions are named
apart give the same in any order. -/
theorem ofFragments_is_exact (fragments : List Fragment) :
    let a := ofFragments fragments
    (∀ name, name ∈ a.definitions.names ↔ ∃ f ∈ fragments, ∃ b, f.Emits b name) ∧
    (∀ before f after b name, fragments = before ++ f :: after → f.Emits b name →
      (∀ g ∈ after, ∀ c, ¬ g.Emits c name) →
      ∃ body, a.definitions.get? name = some body ∧ f.IsDefinition b body) ∧
    (∀ code, code ∈ a.codes.names ↔ ∃ f ∈ fragments, ∃ b, b ≠ .extractOnly ∧
      ∃ name entry, (f.bucket b).get? name = some entry ∧ entry.code = some code) ∧
    ((fragments.map (·.adminType.camelName)).Nodup →
      ∀ others : List Fragment, others.Perm fragments → ofFragments others = a) := by
  intro a
  refine ⟨fun name => mem_names_definitions, ?_, fun code => ?_,
    fun hdistinct others => ofFragments_eq_of_perm hdistinct⟩
  · intro before f after b name hfragments hemits hlast
    obtain ⟨hb, rfl⟩ := Fragment.emits_iff.mp hemits
    refine ⟨f.body b, ?_, f.isDefinition_body b⟩
    rw [show a = ofFragments (before ++ f :: after) from congrArg ofFragments hfragments]
    refine get?_definitions_of_last hb fun g hg hm => ?_
    obtain ⟨c, hc⟩ := Fragment.mem_names_definitions_iff_emits.mp hm
    exact hlast g hg c hc
  · simp only [a, mem_names_codes, Fragment.mem_codes]

def ownerFragment : Fragment where
  adminType := ⟨"user"⟩
  placements := [
    ⟨"base:owner", .addOnly, ⟨"owner", some .string, false, some "string"⟩⟩,
    ⟨"base:size[a-zA-Z0-9@#$]+$", .pattern, ⟨"size", some .uint, false, some "uint"⟩⟩]
  names_nodup := by simp

def dateFragment : Fragment where
  adminType := ⟨"group"⟩
  placements := [⟨"base:date", .extractOnly, ⟨"date", some .string, false, none⟩⟩]
  names_nodup := by simp

theorem ofFragments_is_exact_swapped :
    let a := ofFragments [ownerFragment, dateFragment]
    "userCommonTraits" ∈ a.definitions.names ∧
      (∃ body, a.definitions.get? "groupExtractOnlyTraits" = some body ∧
        dateFragment.IsDefinition .extractOnly body) ∧
      "uint" ∈ a.codes.names ∧ ofFragments [dateFragment, ownerFragment] = a := by
  obtain ⟨hnames, hlast, hcodes, hperm⟩ := ofFragments_is_exact [ownerFragment, dateFragment]
  have hfamily : ("base:size[a-zA-Z0-9@#$]+$", ⟨"size", some .uint, false, some "uint"⟩) ∈
      ownerFragment.bucket .pattern :=
    Fragment.mem_bucket.mpr (List.mem_cons_of_mem _ (List.mem_singleton_self _))
  have hcommon : ownerFragment.Emits .common "userCommonTraits" :=
    ⟨_, rfl, by decide, .inr ⟨rfl, List.ne_nil_of_mem hfamily⟩⟩
  have hdate : dateFragment.Emits .extractOnly "groupExtractOnlyTraits" :=
    ⟨_, rfl, by decide, .inl (Fragment.bucket_ne_nil ⟨_, List.mem_singleton_self _, rfl⟩)⟩
  have hcode := Table.get?_of_mem (Table.names_nodup (ownerFragment.sorted_bucket _)) hfamily
  refine ⟨(hnames _).mpr ⟨_, List.mem_cons_self, _, hcommon⟩, ?_,
    (hcodes _).mpr ⟨_, List.mem_cons_self, .pattern, by decide, _, _, hcode, rfl⟩,
    hperm (by decide) _ (.swap _ _ _)⟩
  exact hlast [ownerFragment] dateFragment [] .extractOnly _ rfl hdate fun _ hg => nomatch hg

end Aggregate

end TraitSchema
