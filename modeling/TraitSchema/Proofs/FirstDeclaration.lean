import Mathlib.Data.Finset.Card
import TraitSchema.Proofs.ConversionSteps
import TraitSchema.Proofs.FirstPlacement

namespace TraitSchema.Conversion

theorem outcome_support_lenient {c : Conversion} (hm : c.mode = .lenient) (d : Declaration) :
    (c.support d).outcome = match c.fault? d with
      | some error => .error (.matrix error)
      | none => .ok (c.supported d) := by
  rw [support_eq, fault?, supported, hm]
  by_cases hd : d.operators.isEmpty = true
  · simp only [hd, ↓reduceIte]
    rfl
  · simp only [hd, Bool.false_eq_true, ↓reduceIte]
    rcases c.matrix.entries d.segment d.supportKey with error | _ | entries <;> rfl

theorem outcome_checkType_lenient {c : Conversion} (hm : c.mode = .lenient) (d : Declaration)
    (p : Placement) : (c.checkType d p).outcome = .ok () := by
  unfold checkType
  rw [hm]
  split <;> rfl

theorem outcome_settle_lenient {c : Conversion} (hm : c.mode = .lenient) (d : Declaration)
    (result : Fragment × InsertOutcome) : (c.settle d result).outcome = .ok result.1 := by
  unfold settle
  rw [hm]
  split <;> rfl

theorem outcome_place_lenient {c : Conversion} (hm : c.mode = .lenient) (f : Fragment)
    (d : Declaration) :
    (c.place f d).outcome = match c.fault? d with
      | some error => .error (.matrix error)
      | none => .ok (f.insert (c.placementOf d)).1 := by
  have hs := outcome_support_lenient hm d
  rw [place_eq]
  cases hf : c.fault? d with
  | some error =>
    rw [hf] at hs
    rw [Traced.bind_of_error hs]
  | none =>
    rw [hf] at hs
    rw [Traced.bind_of_ok hs, Traced.bind_of_ok (outcome_checkType_lenient hm d _)]
    exact outcome_settle_lenient hm d _

/-- Placing declarations in lenient mode is inserting what each of them says, up to an error. -/
theorem outcome_placeAll_lenient {c : Conversion} (hm : c.mode = .lenient)
    (ds : List Declaration) (f : Fragment) :
    ds.foldlM (fun f d => (c.place f d).outcome) f = match ds.findSome? c.fault? with
      | some error => .error (.matrix error)
      | none => .ok (f.insertAll (ds.map c.placementOf)) := by
  induction ds generalizing f with
  | nil => rfl
  | cons d ds ih =>
    rw [List.foldlM_cons, outcome_place_lenient hm, List.findSome?_cons]
    cases hf : c.fault? d with
    | some error => rfl
    | none => exact ih _

theorem outcome_run_lenient {c : Conversion} (hm : c.mode = .lenient) (source : List Char) :
    (c.run source).outcome = match (KeyMap.declared c.adminType source).findSome? c.fault? with
      | some error => .error (.matrix error)
      | none => .ok ((Fragment.empty c.adminType).insertAll
          ((KeyMap.declared c.adminType source).map c.placementOf),
          (KeyMap.segments c.adminType (KeyMap.declarations source)).length) := by
  rw [outcome_run, outcome_placeAll_lenient hm]
  cases (KeyMap.declared c.adminType source).findSome? c.fault? <;> rfl

/-- The placement of a name comes from its first declaration. -/
theorem find?_placeAll (c : Conversion) (ds : List Declaration) (name : String) :
    ((Fragment.empty c.adminType).insertAll (ds.map c.placementOf)).find? name =
      (ds.find? fun d => d.propertyName == name).map c.placementOf := by
  rw [Fragment.find?_insertAll_empty, List.find?_map]
  rfl

theorem names_placeAll (c : Conversion) (ds : List Declaration) :
    ((Fragment.empty c.adminType).insertAll (ds.map c.placementOf)).names =
      (ds.map (·.propertyName)).eraseDups := by
  rw [Fragment.names_insertAll_empty, List.map_map]
  rfl

theorem get?_bucket_placeAll (c : Conversion) (ds : List Declaration) (b : Bucket)
    (name : String) :
    (((Fragment.empty c.adminType).insertAll (ds.map c.placementOf)).bucket b).get? name =
      (ds.find? fun d => d.propertyName == name).bind fun d =>
        if b = c.bucketOf d then some (.ofDeclaration d b) else none := by
  rw [Fragment.get?_bucket, find?_placeAll]
  cases ds.find? fun d => d.propertyName == name with
  | none => rfl
  | some d =>
    by_cases hb : c.bucketOf d = b
    · subst hb
      simp [placementOf, placement, bucketOf]
    · have hp : (c.placementOf d).bucket ≠ b := hb
      simp [hp, Ne.symm hb]

theorem traitCount_placeAll (c : Conversion) (ds : List Declaration) :
    ((Fragment.empty c.adminType).insertAll (ds.map c.placementOf)).traitCount =
      (ds.map (·.propertyName)).toFinset.card := by
  have hn := ((Fragment.empty c.adminType).insertAll (ds.map c.placementOf)).names_nodup
  rw [← Fragment.names, names_placeAll] at hn
  rw [Fragment.traitCount_eq, names_placeAll, ← List.toFinset_card_of_nodup hn]
  congr 1
  ext name
  simp only [List.mem_toFinset, List.mem_eraseDups]

theorem holds_placeAll_iff (c : Conversion) (ds : List Declaration) (name : String) :
    (∃ b, (((Fragment.empty c.adminType).insertAll (ds.map c.placementOf)).bucket b).holds name =
      true) ↔ ∃ d ∈ ds, d.propertyName = name := by
  simp only [Table.holds, get?_bucket_placeAll]
  constructor
  · rintro ⟨b, hb⟩
    cases hd : ds.find? fun d => d.propertyName == name with
    | none => simp [hd] at hb
    | some d => exact ⟨d, List.mem_of_find?_eq_some hd, by simpa using List.find?_some hd⟩
  · rintro ⟨d, hd, rfl⟩
    have hs : (ds.find? fun e => e.propertyName == d.propertyName).isSome = true :=
      List.find?_isSome.mpr ⟨d, hd, beq_self_eq_true _⟩
    obtain ⟨first, hfirst⟩ := Option.isSome_iff_exists.mp hs
    exact ⟨c.bucketOf first, by simp [hfirst]⟩

theorem unresolved_placeAll (c : Conversion) (ds : List Declaration) :
    ((Fragment.empty c.adminType).insertAll (ds.map c.placementOf)).unresolved =
      (ds.map (·.propertyName)).eraseDups.filter fun name =>
        (ds.find? fun d => d.propertyName == name).any fun d =>
          (SharedType.ofTag? d.tag d.operators).isNone := by
  rw [Fragment.unresolved_eq, names_placeAll]
  simp only [find?_placeAll, Option.any_map]
  rfl

/-- A lenient conversion fails with the error of the first declaration that meets one. -/
theorem error_of_lenient_run_iff {c : Conversion} (hm : c.mode = .lenient) (source : List Char)
    (e : SchemaError) :
    (c.run source).outcome = .error e ↔
      ∃ before d after error, KeyMap.declared c.adminType source = before ++ d :: after ∧
        (∀ earlier ∈ before, c.fault? earlier = none) ∧
        c.fault? d = some error ∧ e = .matrix error := by
  rw [outcome_run_lenient hm]
  constructor
  · intro h
    cases hf : (KeyMap.declared c.adminType source).findSome? c.fault? with
    | none => simp [hf] at h
    | some error =>
      simp only [hf, Except.error.injEq] at h
      obtain ⟨before, d, after, hd, hfault, hbefore⟩ := List.findSome?_eq_some_iff.mp hf
      exact ⟨before, d, after, error, hd, hbefore, hfault, h.symm⟩
  · rintro ⟨before, d, after, error, hd, hbefore, hfault, rfl⟩
    rw [List.findSome?_eq_some_iff.mpr ⟨before, d, after, hd, hfault, hbefore⟩]

/-- A lenient conversion stops at the first declaration that meets a bad record of the matrix. If
there is none, each property name is placed as its first declaration says and only so. -/
theorem lenient_run_follows_first_declarations (t : AdminType) (matrix : SupportMatrix)
    (source : List Char) :
    let c : Conversion := ⟨.lenient, t, matrix⟩
    let declared := KeyMap.declared t source
    (∀ e, (c.run source).outcome = .error e ↔
      ∃ before d after error, declared = before ++ d :: after ∧
        (∀ earlier ∈ before, c.fault? earlier = none) ∧
        c.fault? d = some error ∧ e = .matrix error) ∧
    ((∀ d ∈ declared, c.fault? d = none) →
      ∃ f, (c.run source).outcome =
          .ok (f, (KeyMap.segments t (KeyMap.declarations source)).length) ∧
        (∀ name, (∃ b, (f.bucket b).holds name = true) ↔
          ∃ d ∈ declared, d.propertyName = name) ∧
        (∀ name d, declared.find? (fun d => d.propertyName == name) = some d → ∀ b,
          (f.bucket b).get? name =
            if b = c.bucketOf d then some (.ofDeclaration d b) else none) ∧
        f.traitCount = (declared.map (·.propertyName)).toFinset.card ∧
        f.unresolved = (declared.map (·.propertyName)).eraseDups.filter fun name =>
          (declared.find? fun d => d.propertyName == name).any fun d =>
            (SharedType.ofTag? d.tag d.operators).isNone) := by
  intro c declared
  refine ⟨error_of_lenient_run_iff rfl source, fun hclean => ?_⟩
  have hf : (KeyMap.declared c.adminType source).findSome? c.fault? = none :=
    List.findSome?_eq_none_iff.mpr hclean
  have hrun := outcome_run_lenient (c := c) rfl source
  rw [hf] at hrun
  refine ⟨_, hrun, holds_placeAll_iff c declared, ?_, traitCount_placeAll c declared,
    unresolved_placeAll c declared⟩
  intro name d hd b
  rw [get?_bucket_placeAll]
  simp [declared, c, hd]

end TraitSchema.Conversion
