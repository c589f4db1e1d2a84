import TraitSchema.Proofs.CamelNames
import TraitSchema.Proofs.EmittedDefinitions

namespace TraitSchema

namespace Fragment

variable {t u : AdminType} {b c : Bucket}

/-- The name of a definition tells the admin type and the bucket. -/
theorem definitionName_eq_iff (ht : t.IsWellNamed) (hu : u.IsWellNamed) (hb : b.suffix? ≠ none)
    (hc : c.suffix? ≠ none) : definitionName t b = definitionName u c ↔ t = u ∧ b = c := by
  constructor
  · intro h
    obtain ⟨hbucket, hcamel⟩ := definitionName_inj hb hc h
    exact ⟨AdminType.camelName_injOn ht hu hcamel, hbucket⟩
  · rintro ⟨rfl, rfl⟩
    rfl

end Fragment

theorem unclaimed_definitionName {u : AdminType} (hu : u.IsWellNamed) {c : Bucket}
    (hc : c.suffix? ≠ none) {fragments : List Fragment}
    (h : ∀ f ∈ fragments, f.adminType.IsWellNamed ∧ f.adminType ≠ u) :
    Unclaimed (Fragment.definitionName u c) fragments := by
  intro f hf hm
  obtain ⟨ht, hne⟩ := h f hf
  obtain ⟨b, hb, he⟩ := Fragment.mem_names_definitions.mp hm
  have hsame := (Fragment.definitionName_eq_iff hu ht hc
    (Fragment.suffix?_of_mem_definedBuckets hb)).mp he
  exact hne hsame.1.symm

namespace Aggregate

/-- Admin types whose names are words joined by underscores are known by these names, and they never
share the name of a definition. So a fragment changes no definition of another such admin type when
it is added, and after any number of them each fragment still has all that it contributed. -/
theorem well_named_definitions_are_separate :
    (∀ t : AdminType, t.IsWellNamed → AdminType.ofText t.name = t ∧ t.camelName ≠ "") ∧
    Set.InjOn AdminType.camelName {t | t.IsWellNamed} ∧
    (∀ t u : AdminType, t.IsWellNamed → u.IsWellNamed → ∀ b c : Bucket, b.suffix? ≠ none →
      c.suffix? ≠ none →
      (Fragment.definitionName t b = Fragment.definitionName u c ↔ t = u ∧ b = c)) ∧
    (∀ (a : Aggregate) (f : Fragment) (u : AdminType), f.adminType.IsWellNamed → u.IsWellNamed →
      f.adminType ≠ u → ∀ c : Bucket, c.suffix? ≠ none →
      (a.add f).definitions.get? (Fragment.definitionName u c) =
        a.definitions.get? (Fragment.definitionName u c)) ∧
    (∀ (a : Aggregate) (f : Fragment) (others : List Fragment), f.adminType.IsWellNamed →
      (∀ g ∈ others, g.adminType.IsWellNamed ∧ g.adminType ≠ f.adminType) →
      ∀ b name, f.Emits b name →
        ∃ body, (others.foldl add (a.add f)).definitions.get? name = some body ∧
          f.IsDefinition b body) := by
  refine ⟨fun t ht => ⟨ht.ofText_name, ht.camelName_ne_empty⟩, AdminType.camelName_injOn,
    fun t u ht hu b c hb hc => Fragment.definitionName_eq_iff ht hu hb hc, ?_, ?_⟩
  · intro a f u hf hu hne c hc
    have hunclaimed : Unclaimed (Fragment.definitionName u c) [f] :=
      unclaimed_definitionName hu hc (List.forall_mem_singleton.mpr ⟨hf, hne⟩)
    exact get?_definitions_foldl_add a hunclaimed
  · intro a f others hf hothers b name hemits
    obtain ⟨hb, rfl⟩ := Fragment.emits_iff.mp hemits
    have hunclaimed : Unclaimed (Fragment.definitionName f.adminType b) others :=
      unclaimed_definitionName hf (Fragment.suffix?_of_mem_definedBuckets hb) hothers
    refine ⟨f.body b, ?_, f.isDefinition_body b⟩
    rw [get?_definitions_foldl_add (a.add f) hunclaimed, get?_definitions_add_of_mem a hb]

def commonFragment (name : String) : Fragment where
  adminType := ⟨name⟩
  placements := [⟨"base:owner", .common, ⟨"owner", some .string, false, some "string"⟩⟩]
  names_nodup := List.nodup_singleton _

theorem well_named_definitions_are_separate_user_group :
    let f := commonFragment "user_group"
    let g := commonFragment "usergroup"
    f.adminType.IsWellNamed ∧ g.adminType.IsWellNamed ∧
      AdminType.ofText "user_group" = f.adminType ∧ f.adminType.camelName ≠ "" ∧
      f.adminType.camelName ≠ g.adminType.camelName ∧
      Fragment.definitionName f.adminType .common ≠ Fragment.definitionName g.adminType .common ∧
      (empty.add g).definitions.get? "userGroupCommonTraits" = none ∧
      ∃ body, ((empty.add f).add g).definitions.get? "userGroupCommonTraits" = some body ∧
        f.IsDefinition .common body := by
  intro f g
  have hf : f.adminType.IsWellNamed :=
    ⟨[⟨'u', "ser".toList, rfl, List.all_eq_true.mp rfl⟩,
      ⟨'g', "roup".toList, rfl, List.all_eq_true.mp rfl⟩],
      List.cons_ne_nil _ _, by decide +kernel⟩
  have hg : g.adminType.IsWellNamed :=
    ⟨[⟨'u', "sergroup".toList, rfl, List.all_eq_true.mp rfl⟩],
      List.cons_ne_nil _ _, by decide +kernel⟩
  have hne : g.adminType ≠ f.adminType := by decide +kernel
  obtain ⟨hnamed, hinj, hnames, hstep, hrun⟩ := well_named_definitions_are_separate
  have hemits : f.Emits .common "userGroupCommonTraits" :=
    ⟨_, rfl, by decide +kernel, .inl (Fragment.bucket_ne_nil ⟨_, List.mem_singleton_self _, rfl⟩)⟩
  obtain ⟨-, hname⟩ := Fragment.emits_iff.mp hemits
  refine ⟨hf, hg, (hnamed _ hf).1, (hnamed _ hf).2, fun h => hne (hinj hf hg h).symm, fun h => ?_,
    ?_, hrun empty f [g] hf (List.forall_mem_singleton.mpr ⟨hg, hne⟩) _ _ hemits⟩
  · exact hne ((hnames _ _ hf hg _ _ (by decide) (by decide)).mp h).1.symm
  · rw [hname, hstep empty g f.adminType hg hf hne .common (by decide)]
    rfl

end Aggregate

end TraitSchema
