import TraitSchema.Proofs.FirstDeclaration

namespace TraitSchema

/-- The bucket of a trait of options or permissions: only for reading without operators, and
otherwise for families or for all the rest. -/
def Bucket.ofDeclaration (d : Declaration) : Bucket :=
  if d.operators.isEmpty then .extractOnly else if d.isWildcard then .pattern else .common

section Alterable

variable {t : AdminType} (ht : t.isOptions = true ∨ t.isPermission = true)

include ht

theorem AdminType.policy_eq_alterExtract : t.policy = .alterExtract := by
  rcases ht with ht | ht <;> simp [policy, ht]

theorem AdminType.resolve_ne_extractOnly (entries : List SupportEntry) :
    t.supportRules.resolve entries ≠ .extractOnly := by
  intro he
  obtain ⟨-, halter, hextract⟩ := OperationSet.mk.inj he
  obtain ⟨entry, hentry, -⟩ := List.any_eq_true.mp hextract
  have hnone := List.any_eq_false.mp halter entry hentry
  rcases ht with ht | ht <;> simp [supportRules, ht] at hnone

namespace Conversion

variable (mode : Mode) (matrix : SupportMatrix)

/-- Reading alone is supported exactly for traits that are declared without operators. -/
theorem supported_eq_extractOnly_iff (d : Declaration) :
    supported ⟨mode, t, matrix⟩ d = .extractOnly ↔ d.operators.isEmpty = true := by
  unfold supported
  by_cases hd : d.operators.isEmpty = true
  · simp [hd]
  · refine iff_of_false ?_ hd
    rw [if_neg hd]
    split
    next entries _ => exact AdminType.resolve_ne_extractOnly ht entries
    next => decide

theorem bucketOf_eq_ofDeclaration (d : Declaration) :
    bucketOf ⟨mode, t, matrix⟩ d = .ofDeclaration d := by
  unfold bucketOf Bucket.ofSupport Bucket.ofDeclaration
  simp only [supported_eq_extractOnly_iff ht mode matrix, AdminType.policy_eq_alterExtract ht,
    OperationPolicy.permits]
  rfl

theorem placementOf_eq (d : Declaration) :
    placementOf ⟨mode, t, matrix⟩ d =
      ⟨d.propertyName, .ofDeclaration d, .ofDeclaration d (.ofDeclaration d)⟩ := by
  rw [← bucketOf_eq_ofDeclaration ht mode matrix d]
  rfl

end Conversion

end Alterable

theorem Bucket.ofDeclaration_ne {b : Bucket} (hb : b = .addOnly ∨ b = .alterOnly)
    (d : Declaration) : ofDeclaration d ≠ b := by
  intro h
  unfold ofDeclaration at h
  split at h
  · rcases hb with rfl | rfl <;> cases h
  · split at h <;> rcases hb with rfl | rfl <;> cases h

namespace Conversion

theorem bucket_placeAll_eq_nil {c : Conversion} {b : Bucket} (h : ∀ d, c.bucketOf d ≠ b)
    (ds : List Declaration) :
    ((Fragment.empty c.adminType).insertAll (ds.map c.placementOf)).bucket b = [] := by
  refine Table.eq_of_get?_eq (Table.sorted_ofList _) List.Pairwise.nil fun name => ?_
  rw [get?_bucket_placeAll]
  cases ds.find? fun d => d.propertyName == name with
  | none => rfl
  | some d => simp [Ne.symm (h d), Table.get?]

/-- For options and permissions two matrices without a bad record for the declared traits give the
same fragment in lenient mode, and so the same buckets, unresolved names and number of segments.
Each name is in the bucket that its first declaration fixes, and nothing is for adding or altering
alone. -/
theorem matrix_moves_no_trait {t : AdminType} (ht : t.isOptions = true ∨ t.isPermission = true)
    (source : List Char) (matrix matrix' : SupportMatrix)
    (hm : ∀ d ∈ KeyMap.declared t source, fault? ⟨.lenient, t, matrix⟩ d = none)
    (hm' : ∀ d ∈ KeyMap.declared t source, fault? ⟨.lenient, t, matrix'⟩ d = none) :
    let declared := KeyMap.declared t source
    let count := (KeyMap.segments t (KeyMap.declarations source)).length
    ∃ f : Fragment, (run ⟨.lenient, t, matrix⟩ source).outcome = .ok (f, count) ∧
      (run ⟨.lenient, t, matrix'⟩ source).outcome = .ok (f, count) ∧
      (∀ name d, declared.find? (fun d => d.propertyName == name) = some d → ∀ b,
        (f.bucket b).get? name =
          if b = .ofDeclaration d then some (.ofDeclaration d b) else none) ∧
      f.bucket .addOnly = [] ∧ f.bucket .alterOnly = [] := by
  intro declared count
  have hrun : ∀ matrix, (∀ d ∈ declared, fault? ⟨.lenient, t, matrix⟩ d = none) →
      (run ⟨.lenient, t, matrix⟩ source).outcome =
        .ok ((Fragment.empty t).insertAll (declared.map (placementOf ⟨.lenient, t, matrix⟩)),
          count) := by
    intro matrix hclean
    rw [outcome_run_lenient rfl, List.findSome?_eq_none_iff.mpr hclean]
  have hsame : placementOf ⟨.lenient, t, matrix'⟩ = placementOf ⟨.lenient, t, matrix⟩ :=
    funext fun d => (placementOf_eq ht .lenient matrix' d).trans (placementOf_eq ht _ _ d).symm
  have hbucket := bucketOf_eq_ofDeclaration ht .lenient matrix
  have hempty : ∀ b, b = .addOnly ∨ b = .alterOnly → ∀ d,
      bucketOf ⟨.lenient, t, matrix⟩ d ≠ b := by
    intro b hb d
    rw [hbucket]
    exact Bucket.ofDeclaration_ne hb d
  refine ⟨_, hrun matrix hm, ?_, fun name d hd b => ?_,
    bucket_placeAll_eq_nil (hempty .addOnly (.inl rfl)) declared,
    bucket_placeAll_eq_nil (hempty .alterOnly (.inr rfl)) declared⟩
  · rw [hrun matrix' hm', hsame]
  · rw [get?_bucket_placeAll ⟨.lenient, t, matrix⟩, hd, Option.bind_some, hbucket]

def tapeKeyMap : List Char :=
  "RACF_OPTIONS_BASE_SEGMENT_MAP
  \x7b\"base:tape\", \"tapevol\", TRAIT_TYPE_BOOLEAN, \x7btrue, false, false, false\x7d\x7d
  \x7b\"base:audit*\", \"audit\", TRAIT_TYPE_STRING, \x7btrue, false, false, true\x7d\x7d
  \x7b\"base:logon\", \"logon\", TRAIT_TYPE_STRING, \x7bfalse, false, false, false\x7d\x7d".toList

/-- A trait that a matrix without a record does not know, and another matrix lets only be read. -/
theorem matrix_moves_no_trait_tape :
    ∃ f : Fragment,
      (run ⟨.lenient, ⟨"racf_options"⟩, .ofRows []⟩ tapeKeyMap).outcome = .ok (f, 1) ∧
      (run ⟨.lenient, ⟨"racf_options"⟩, .ofRows [⟨"base", "tapevol", ⟨false, false, true⟩⟩]⟩
        tapeKeyMap).outcome = .ok (f, 1) ∧
      (f.bucket .common).get? "base:tape" =
        some ⟨"tapevol", SharedType.ofTag? ⟨"BOOLEAN"⟩ ⟨true, false, false, false⟩, false,
          some (operatorCode ⟨"BOOLEAN"⟩ ⟨true, false, false, false⟩)⟩ ∧
      f.bucket .addOnly = [] ∧ f.bucket .alterOnly = [] := by
  obtain ⟨f, hf, hf', hplace, hadd, halter⟩ :=
    matrix_moves_no_trait (t := ⟨"racf_options"⟩) (.inl rfl) tapeKeyMap
      (.ofRows []) (.ofRows [⟨"base", "tapevol", ⟨false, false, true⟩⟩])
      (fun d _ => fault?_ofRows _ _ _ d) (fun d _ => fault?_ofRows _ _ _ d)
  obtain ⟨hcount, htape⟩ :
      (KeyMap.segments ⟨"racf_options"⟩ (KeyMap.declarations tapeKeyMap)).length = 1 ∧
        ((KeyMap.declared ⟨"racf_options"⟩ tapeKeyMap).find?
          fun d => d.propertyName == "base:tape") =
            some ⟨"base", "base:tape", "tapevol", ⟨"BOOLEAN"⟩, ⟨true, false, false, false⟩⟩ := by
    decide +kernel
  rw [hcount] at hf hf'
  exact ⟨f, hf, hf', hplace _ _ htape .common, hadd, halter⟩

end Conversion

end TraitSchema
