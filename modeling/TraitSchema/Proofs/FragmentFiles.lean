import TraitSchema.Proofs.BucketTables
import TraitSchema.Proofs.ConvertedFragments
import TraitSchema.Proofs.EmittedDefinitions
import TraitSchema.Proofs.ListSteps
import TraitSchema.Proofs.UnionPaths

namespace TraitSchema

theorem SharedType.name_injective : Function.Injective name := by
  apply injective_of_find? all
  intro type
  cases type <;> rfl

theorem SharedType.reference_inj {type other : Option SharedType}
    (h : reference type = reference other) : type = other := by
  have hmarker : ∀ t : SharedType, notApplicable ≠ localStart ++ t.name := by
    intro t he
    have hchars := congrArg String.toList he
    rw [String.toList_append] at hchars
    exact absurd (List.cons.inj hchars).1 (by decide)
  cases type with
  | none =>
    cases other with
    | none => rfl
    | some t => exact absurd h (hmarker t)
  | some t =>
    cases other with
    | none => exact absurd h.symm (hmarker t)
    | some u =>
      have hchars := congrArg String.toList h
      simp only [reference, String.toList_append, List.append_cancel_left_eq] at hchars
      exact congrArg some (name_injective (String.toList_inj.mp hchars))

/-- A value with its code shows one entry alone. -/
theorem TraitEntry.Shown.unique {entry other : TraitEntry} {value : Json}
    (h : entry.Shown true value) (h' : other.Shown true value) : entry = other := by
  obtain ⟨key, type, mark, code⟩ := entry
  obtain ⟨key', type', mark', code'⟩ := other
  have hkey : key = key' := Json.string.inj (Option.some.inj (h.key.symm.trans h'.key))
  have hreference := Json.string.inj (Option.some.inj (h.type.symm.trans h'.type))
  have htype : type = type' := SharedType.reference_inj hreference
  have hmark : mark = mark' := by
    have hm := h.mark.symm.trans h'.mark
    cases mark <;> cases mark' <;> simp at hm <;> rfl
  have hcode : code.map Json.string = code'.map Json.string := h.code.symm.trans h'.code
  rw [hkey, htype, hmark, Option.map_injective (fun _ _ => Json.string.inj) hcode]

theorem Bucket.key_injective : Function.Injective key := by
  apply injective_of_find? all
  intro b
  cases b <;> rfl

namespace Fragment

theorem mem_shownBuckets {policy : OperationPolicy} {b : Bucket} :
    b ∈ shownBuckets policy ↔ policy.permits .add = true ∨ b ≠ .addOnly ∧ b ≠ .alterOnly := by
  cases policy <;> cases b <;> decide

/-- Every trait is placed in a bucket that is written. -/
theorem ofSupport_mem_shownBuckets (d : Declaration) (ops : OperationSet)
    (policy : OperationPolicy) : Bucket.ofSupport d ops policy ∈ shownBuckets policy := by
  rw [mem_shownBuckets]
  by_cases hp : policy.permits .add = true
  · exact .inl hp
  · right
    unfold Bucket.ofSupport
    split
    · decide
    · split
      · decide
      · rw [if_pos (by simp [hp])]
        decide

variable {f g : Fragment} {b : Bucket} {name key : String}

theorem IsConverted.mem_shownBuckets (hf : f.IsConverted) {entry : TraitEntry}
    (h : (f.bucket b).get? name = some entry) : b ∈ shownBuckets f.adminType.policy := by
  obtain ⟨c, source, ht, d, -, rfl, -⟩ := hf.exists_declared_of_get? h
  rw [← ht]
  exact ofSupport_mem_shownBuckets d (c.supported d) c.adminType.policy

theorem IsConverted.bucket_eq_nil (hf : f.IsConverted)
    (hb : b ∉ shownBuckets f.adminType.policy) : f.bucket b = [] := by
  apply Table.eq_of_get?_eq (f.sorted_bucket b) List.Pairwise.nil
  intro name
  cases h : (f.bucket b).get? name with
  | none => rfl
  | some entry => exact absurd (hf.mem_shownBuckets h) hb

theorem names_shown_nodup (policy : OperationPolicy) (value : Bucket → Json) :
    (Table.names ((shownBuckets policy).map fun b => (b.key, value b))).Nodup := by
  have hnames : Table.names ((shownBuckets policy).map fun b => (b.key, value b)) =
      (shownBuckets policy).map Bucket.key := by
    rw [Table.names, List.map_map]
    rfl
  rw [hnames]
  cases policy <;> decide

theorem get?_toJson_eq_some_iff {value : Json} :
    f.toJson.get? key = some value ↔
      ∃ b ∈ shownBuckets f.adminType.policy, b.key = key ∧ f.listing b true = value := by
  have hnodup := names_shown_nodup f.adminType.policy fun b => f.listing b true
  have hget : f.toJson.get? key = Table.get? (Table.ofList ((shownBuckets f.adminType.policy).map
      fun b => (b.key, f.listing b true))) key := rfl
  rw [hget, Table.get?_ofList_of_nodup hnodup, Table.get?_eq_some_iff hnodup]
  simp only [List.mem_map, Prod.mk.injEq]

theorem at?_toJson_eq_some_iff {value : Json} :
    f.toJson.at? [key, name] = some value ↔
      ∃ b ∈ shownBuckets f.adminType.policy, b.key = key ∧
        ∃ entry, (f.bucket b).get? name = some entry ∧ entry.toJson true = value := by
  have hstep : f.toJson.at? [key, name] = (f.toJson.get? key).bind (·.get? name) :=
    Json.at?_concat f.toJson [key] name |>.trans (by simp [Json.at?])
  rw [hstep, Option.bind_eq_some_iff]
  constructor
  · intro h
    obtain ⟨listing, hlisting, hvalue⟩ := h
    obtain ⟨b, hb, hkey, he⟩ := get?_toJson_eq_some_iff.mp hlisting
    rw [← he, get?_listing] at hvalue
    exact ⟨b, hb, hkey, Option.map_eq_some_iff.mp hvalue⟩
  · intro h
    obtain ⟨b, hb, hkey, hentry⟩ := h
    refine ⟨f.listing b true, get?_toJson_eq_some_iff.mpr ⟨b, hb, hkey, rfl⟩, ?_⟩
    rw [get?_listing]
    exact Option.map_eq_some_iff.mpr hentry

/-- How many members the members of a value have together. -/
def entryCount (value : Json) : Nat :=
  ((value.members?.getD []).map fun member => (member.2.members?.getD []).length).sum

theorem entryCount_toJson (f : Fragment) :
    entryCount f.toJson =
      ((shownBuckets f.adminType.policy).map fun b => (f.bucket b).length).sum := by
  have hperm := Table.perm_ofList (names_shown_nodup f.adminType.policy fun b => f.listing b true)
  have hsum := (hperm.map fun member => (member.2.members?.getD []).length).sum_eq
  rw [List.map_map] at hsum
  refine hsum.trans (congrArg List.sum (List.map_congr_left fun b _ => ?_))
  exact List.length_map _

theorem IsConverted.entryCount_toJson (hf : f.IsConverted) :
    entryCount f.toJson = f.traitCount := by
  rw [Fragment.entryCount_toJson, ← traitCount_tables, BucketTables.traitCount, tables]
  cases hp : f.adminType.policy with
  | full => rfl
  | alterExtract =>
    have hadd : f.bucket .addOnly = [] := hf.bucket_eq_nil (by rw [hp]; decide)
    have halter : f.bucket .alterOnly = [] := hf.bucket_eq_nil (by rw [hp]; decide)
    have hshown : shownBuckets .alterExtract = [.common, .extractOnly, .pattern] := rfl
    simp [hshown, Bucket.all, hadd, halter]

theorem IsConverted.get?_of_toJson_eq (hf : f.IsConverted) (h : f.toJson = g.toJson)
    {entry : TraitEntry} (hentry : (f.bucket b).get? name = some entry) :
    (g.bucket b).get? name = some entry := by
  have hat : f.toJson.at? [b.key, name] = some (entry.toJson true) :=
    at?_toJson_eq_some_iff.mpr ⟨b, hf.mem_shownBuckets hentry, rfl, entry, hentry, rfl⟩
  rw [h] at hat
  obtain ⟨c, -, hkey, other, hother, hvalue⟩ := at?_toJson_eq_some_iff.mp hat
  have hbucket := Bucket.key_injective hkey
  have hsame : other = entry :=
    (hvalue ▸ other.shown_toJson true).unique (entry.shown_toJson true)
  rw [← hbucket, hother, hsame]

/-- Converted fragments of one admin type are told apart by their values as far as their buckets
differ. -/
theorem IsConverted.toJson_eq_iff (hf : f.IsConverted) (hg : g.IsConverted)
    (ht : g.adminType = f.adminType) :
    f.toJson = g.toJson ↔ ∀ b, f.bucket b = g.bucket b := by
  constructor
  · intro h b
    apply Table.eq_of_get?_eq (f.sorted_bucket b) (g.sorted_bucket b)
    intro name
    apply Option.ext
    intro entry
    exact ⟨hf.get?_of_toJson_eq h, hg.get?_of_toJson_eq h.symm⟩
  · intro h
    simp only [toJson, ht, h]

theorem IsConverted.isSome_code_iff (hf : f.IsConverted) {entry : TraitEntry}
    (h : (f.bucket b).get? name = some entry) : entry.code.isSome = true ↔ b ≠ .extractOnly := by
  obtain ⟨c, source, -, d, -, -, rfl⟩ := hf.exists_declared_of_get? h
  rw [TraitEntry.ofDeclaration]
  by_cases hb : b = .extractOnly <;> simp [hb]

/-- The value of a converted fragment shows each of its traits with its entry under the key of its
bucket and under no other key, and nothing else: what is left out for an admin type that is never
added is empty. Values of one admin type are the same only for the same buckets, and codes are on
the entries of all traits but those for reading alone. -/
theorem toJson_loses_nothing (hf : f.IsConverted) :
    (f.adminType.policy.permits .add = false →
      f.bucket .addOnly = [] ∧ f.bucket .alterOnly = []) ∧
    (∀ b name entry, (f.bucket b).get? name = some entry →
      (∃ value, f.toJson.at? [b.key, name] = some value ∧ entry.Shown true value) ∧
      ∀ key, f.toJson.at? [key, name] ≠ none → key = b.key) ∧
    entryCount f.toJson = f.traitCount ∧
    (∀ g : Fragment, g.IsConverted → g.adminType = f.adminType →
      (f.toJson = g.toJson ↔ ∀ b, f.bucket b = g.bucket b)) ∧
    (∀ key name value, f.toJson.at? [key, name] = some value →
      ((value.get? TraitEntry.codeKey).isSome = true ↔ key ≠ Bucket.extractOnly.key)) := by
  refine ⟨fun hp => ?_, fun b name entry hentry => ⟨?_, fun key hkey => ?_⟩,
    hf.entryCount_toJson, fun g hg ht => hf.toJson_eq_iff hg ht, ?_⟩
  · have hhidden : ∀ b, b = .addOnly ∨ b = .alterOnly → f.bucket b = [] := by
      intro b hb
      apply hf.bucket_eq_nil
      rw [mem_shownBuckets, hp]
      rcases hb with rfl | rfl <;> decide
    exact ⟨hhidden .addOnly (.inl rfl), hhidden .alterOnly (.inr rfl)⟩
  · refine ⟨entry.toJson true, ?_, entry.shown_toJson true⟩
    exact at?_toJson_eq_some_iff.mpr ⟨b, hf.mem_shownBuckets hentry, rfl, entry, hentry, rfl⟩
  · obtain ⟨value, hvalue⟩ := Option.ne_none_iff_exists'.mp hkey
    obtain ⟨c, -, rfl, other, hother, -⟩ := at?_toJson_eq_some_iff.mp hvalue
    by_contra hne
    have hbc : c ≠ b := fun he => hne (he ▸ rfl)
    have hc : name ∈ (f.bucket c).names := Table.holds_iff.mp (by rw [Table.holds, hother]; rfl)
    have hb : name ∈ (f.bucket b).names := Table.holds_iff.mp (by rw [Table.holds, hentry]; rfl)
    exact disjoint_buckets hbc hc hb
  · intro key name value hvalue
    obtain ⟨b, -, rfl, entry, hentry, rfl⟩ := at?_toJson_eq_some_iff.mp hvalue
    rw [(entry.shown_toJson true).code, if_pos rfl, Option.isSome_map, hf.isSome_code_iff hentry]
    exact ⟨fun hb he => hb (Bucket.key_injective he), fun hkey he => hkey (he ▸ rfl)⟩

theorem toJson_loses_nothing_access :
    let f := accessFragment
    f.bucket .addOnly = [] ∧ f.bucket .alterOnly = [] ∧
      (∃ value, f.toJson.at? ["commonTraits", "base:access"] = some value ∧
        TraitEntry.Shown ⟨"access", some .setOnlyString, false,
          some (operatorCode ⟨"STRING"⟩ ⟨true, false, false, false⟩)⟩ true value) ∧
      entryCount f.toJson = 2 := by
  obtain ⟨hhidden, htraits, hcount, -, -⟩ := toJson_loses_nothing accessFragment_isConverted
  obtain ⟨hadd, halter⟩ := hhidden (by decide)
  exact ⟨hadd, halter, (htraits .common _ _ get?_accessFragment).1, hcount⟩

end Fragment

end TraitSchema
