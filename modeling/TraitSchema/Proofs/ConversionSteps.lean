import TraitSchema.Conversion
import TraitSchema.Proofs.FirstPlacement
import TraitSchema.Proofs.ListSteps
import TraitSchema.Proofs.Trace

namespace TraitSchema

/-- The declarations of a key map for an admin type, segment by segment. -/
def KeyMap.declared (t : AdminType) (source : List Char) : List Declaration :=
  (segments t (declarations source)).flatMap fun segment => records segment (declarations source)

namespace Conversion

/-- The error that a declared trait meets in the matrix, which is asked only about operators. -/
def fault? (c : Conversion) (d : Declaration) : Option MatrixError :=
  if d.operators.isEmpty then none
  else match c.matrix.entries d.segment d.supportKey with
    | .error error => some error
    | .ok _ => none

theorem fault?_ofRows (mode : Mode) (t : AdminType) (rows : List SupportRow) (d : Declaration) :
    fault? ⟨mode, t, .ofRows rows⟩ d = none := by
  unfold fault? SupportMatrix.ofRows
  dsimp only
  split
  · rfl
  · split
    next error h => split at h <;> cases h
    next => rfl

/-- The operations that a declared trait supports: reading alone if it has no operators, none if
the matrix does not know it. -/
def supported (c : Conversion) (d : Declaration) : OperationSet :=
  if d.operators.isEmpty then .extractOnly
  else match c.matrix.entries d.segment d.supportKey with
    | .ok (some entries) => c.adminType.supportRules.resolve entries
    | _ => .empty

def bucketOf (c : Conversion) (d : Declaration) : Bucket :=
  Bucket.ofSupport d (c.supported d) c.adminType.policy

def placementOf (c : Conversion) (d : Declaration) : Placement := c.placement d (c.supported d)

theorem support_eq (c : Conversion) (d : Declaration) :
    c.support d = if d.operators.isEmpty then pure .extractOnly
      else match c.matrix.entries d.segment d.supportKey with
        | .error error => .fail (.matrix error)
        | .ok (some entries) => pure (c.adminType.supportRules.resolve entries)
        | .ok none =>
          c.mode.violation (.missingEntry c.adminType d.segment d.supportKey)
            (.missingEntry d.name) >>= fun _ => pure .empty := by
  unfold support classify
  by_cases hd : d.operators.isEmpty = true
  · simp only [hd, ↓reduceIte]
    rfl
  · simp only [hd, Bool.false_eq_true, ↓reduceIte]
    rcases c.matrix.entries d.segment d.supportKey with error | _ | entries <;> rfl

/-- The step that faults a placement whose tag has no known kind. -/
def checkType (c : Conversion) (d : Declaration) (p : Placement) : Traced Unit :=
  if p.entry.type.isNone then
    c.mode.violation (.unresolvedType d.name d.tag) (.unresolvedType d.name d.tag)
  else pure ()

/-- The step that reports or faults what became of a placement. -/
def settle (c : Conversion) (d : Declaration) (result : Fragment × InsertOutcome) :
    Traced Fragment :=
  match result.2 with
  | .inserted => pure result.1
  | .duplicate => Traced.report (.repeated d.name) >>= fun _ => pure result.1
  | .conflict kept =>
    c.mode.violation (.collision c.adminType d.name) (.conflict d.name kept) >>= fun _ =>
      pure result.1

theorem place_eq (c : Conversion) (f : Fragment) (d : Declaration) :
    c.place f d = c.support d >>= fun ops =>
      c.checkType d (c.placement d ops) >>= fun _ => c.settle d (f.insert (c.placement d ops)) := by
  refine congrArg _ (funext fun ops => ?_)
  exact (Traced.bind_ite_pure _ _ fun _ => c.settle d (f.insert (c.placement d ops))).symm

theorem placeSegment_eq (c : Conversion) (declared : List Char) (f : Fragment) (segment : String) :
    c.placeSegment declared f segment =
      Traced.reportIf ((KeyMap.records segment declared).isEmpty = true)
        (.noTraits c.adminType segment) >>= fun _ =>
      (KeyMap.records segment declared).foldlM c.place f := by
  refine Eq.trans ?_ (Traced.bind_ite_pure _ _ _).symm
  rfl

theorem run_eq (c : Conversion) (source : List Char) :
    c.run source =
      Traced.reportIf ((KeyMap.segments c.adminType (KeyMap.declarations source)).isEmpty = true)
        (.noSegments c.adminType) >>= fun _ =>
      c.placeSegments (KeyMap.declarations source)
        (KeyMap.segments c.adminType (KeyMap.declarations source)) >>= fun f =>
      Traced.reportIf (f.traitCount = 0) (.emptyFragment c.adminType) >>= fun _ =>
      pure (f, (KeyMap.segments c.adminType (KeyMap.declarations source)).length) := by
  refine Eq.trans ?_ (Traced.bind_ite_pure _ _ _).symm
  simp only [Traced.reportIf, Traced.bind_ite_pure]
  rfl

theorem outcome_placeSegment (c : Conversion) (declared : List Char) (f : Fragment)
    (segment : String) :
    (c.placeSegment declared f segment).outcome =
      (KeyMap.records segment declared).foldlM (fun f d => (c.place f d).outcome) f := by
  rw [placeSegment_eq, Traced.outcome_reportIf_bind, Traced.outcome_foldlM]

theorem outcome_placeSegments (c : Conversion) (declared : List Char) (segments : List String)
    (f : Fragment) :
    (segments.foldlM (c.placeSegment declared) f).outcome =
      (segments.flatMap fun segment => KeyMap.records segment declared).foldlM
        (fun f d => (c.place f d).outcome) f := by
  induction segments generalizing f with
  | nil => rfl
  | cons segment segments ih =>
    rw [List.foldlM_cons, Traced.outcome_bind, outcome_placeSegment, List.flatMap_cons,
      List.foldlM_append]
    exact congrArg _ (funext ih)

theorem outcome_run (c : Conversion) (source : List Char) :
    (c.run source).outcome =
      ((KeyMap.declared c.adminType source).foldlM (fun f d => (c.place f d).outcome)
        (.empty c.adminType)).map fun f =>
          (f, (KeyMap.segments c.adminType (KeyMap.declarations source)).length) := by
  rw [run_eq, Traced.outcome_reportIf_bind, Traced.outcome_bind, placeSegments,
    outcome_placeSegments]
  simp only [Traced.outcome_reportIf_bind]
  rfl

section Support

variable {mode : Mode} {t : AdminType} {matrix matrix' : SupportMatrix}

theorem place_congr {d : Declaration}
    (h : support ⟨mode, t, matrix⟩ d = support ⟨mode, t, matrix'⟩ d) (f : Fragment) :
    place ⟨mode, t, matrix⟩ f d = place ⟨mode, t, matrix'⟩ f d := by
  rw [place_eq, place_eq, h]
  rfl

/-- A conversion depends on its matrix through the support of the declared traits alone. -/
theorem run_congr {source : List Char}
    (h : ∀ d ∈ KeyMap.declared t source,
      support ⟨mode, t, matrix⟩ d = support ⟨mode, t, matrix'⟩ d) :
    run ⟨mode, t, matrix⟩ source = run ⟨mode, t, matrix'⟩ source := by
  have hplace : ∀ segments : List String, segments = KeyMap.segments t (KeyMap.declarations source) →
      placeSegments ⟨mode, t, matrix⟩ (KeyMap.declarations source) segments =
        placeSegments ⟨mode, t, matrix'⟩ (KeyMap.declarations source) segments := by
    rintro segments rfl
    refine foldlM_congr (fun f segment hs => ?_) _
    rw [placeSegment_eq, placeSegment_eq]
    refine congrArg _ (funext fun _ => foldlM_congr (fun f d hd => ?_) f)
    exact place_congr (h d (List.mem_flatMap.mpr ⟨segment, hs, hd⟩)) f
  rw [run_eq, run_eq]
  dsimp only
  rw [hplace _ rfl]

theorem outcome_place_congr {d : Declaration}
    (h : (support ⟨mode, t, matrix⟩ d).outcome = (support ⟨mode, t, matrix'⟩ d).outcome)
    (f : Fragment) :
    (place ⟨mode, t, matrix⟩ f d).outcome = (place ⟨mode, t, matrix'⟩ f d).outcome := by
  rw [place_eq, place_eq, Traced.outcome_bind, Traced.outcome_bind, h]
  rfl

/-- How a conversion ends depends on how the matrix answers for the declared traits alone. -/
theorem outcome_run_congr {source : List Char}
    (h : ∀ d ∈ KeyMap.declared t source,
      (support ⟨mode, t, matrix⟩ d).outcome = (support ⟨mode, t, matrix'⟩ d).outcome) :
    (run ⟨mode, t, matrix⟩ source).outcome = (run ⟨mode, t, matrix'⟩ source).outcome := by
  rw [outcome_run, outcome_run]
  refine congrArg _ (foldlM_congr ?_ _)
  exact fun f d hd => outcome_place_congr (h d hd) f

end Support

theorem support_ok {c : Conversion} {d : Declaration} {ops : OperationSet}
    (h : (c.support d).outcome = .ok ops) : ops = c.supported d := by
  rw [support_eq] at h
  unfold supported
  split at h
  next hd =>
    rw [if_pos hd]
    exact (Except.ok.inj h).symm
  next hd =>
    rw [if_neg hd]
    split at h
    next => cases h
    next entries he =>
      rw [he]
      exact (Except.ok.inj h).symm
    next he =>
      rw [he]
      obtain ⟨_, _, h⟩ := Traced.ok_of_bind h
      exact (Except.ok.inj h).symm

theorem settle_ok {c : Conversion} {d : Declaration} {result : Fragment × InsertOutcome}
    {f : Fragment} (h : (c.settle d result).outcome = .ok f) : f = result.1 := by
  unfold settle at h
  split at h
  next => exact (Except.ok.inj h).symm
  next =>
    obtain ⟨_, _, h⟩ := Traced.ok_of_bind h
    exact (Except.ok.inj h).symm
  next =>
    obtain ⟨_, _, h⟩ := Traced.ok_of_bind h
    exact (Except.ok.inj h).symm

theorem place_ok {c : Conversion} {f placed : Fragment} {d : Declaration}
    (h : (c.place f d).outcome = .ok placed) : placed = (f.insert (c.placementOf d)).1 := by
  rw [place_eq] at h
  obtain ⟨ops, hops, h⟩ := Traced.ok_of_bind h
  obtain ⟨_, _, h⟩ := Traced.ok_of_bind h
  rw [settle_ok h, support_ok hops]
  rfl

theorem placeAll_ok {c : Conversion} {ds : List Declaration} {f placed : Fragment}
    (h : ds.foldlM (fun f d => (c.place f d).outcome) f = .ok placed) :
    placed = f.insertAll (ds.map c.placementOf) := by
  induction ds generalizing f with
  | nil => exact (Except.ok.inj h).symm
  | cons d ds ih =>
    rw [List.foldlM_cons] at h
    cases hd : (c.place f d).outcome with
    | error e => simp [hd, bind, Except.bind] at h
    | ok next =>
      rw [hd] at h
      rw [ih h, place_ok hd]
      rfl

theorem outcome_run_eq_ok_iff {c : Conversion} {source : List Char} {f : Fragment} {n : Nat} :
    (c.run source).outcome = .ok (f, n) ↔
      (KeyMap.declared c.adminType source).foldlM (fun f d => (c.place f d).outcome)
          (.empty c.adminType) = .ok f ∧
        n = (KeyMap.segments c.adminType (KeyMap.declarations source)).length := by
  rw [outcome_run]
  cases (KeyMap.declared c.adminType source).foldlM (fun f d => (c.place f d).outcome)
      (.empty c.adminType) with
  | error e => exact iff_of_false (fun h => nomatch h) fun h => nomatch h.1
  | ok placed => simp [Except.map, eq_comm]

/-- A conversion that succeeds, strict or lenient, has inserted what each declaration says. -/
theorem run_ok {c : Conversion} {source : List Char} {f : Fragment} {n : Nat}
    (h : (c.run source).outcome = .ok (f, n)) :
    f = (Fragment.empty c.adminType).insertAll
        ((KeyMap.declared c.adminType source).map c.placementOf) ∧
      n = (KeyMap.segments c.adminType (KeyMap.declarations source)).length := by
  obtain ⟨hplaced, hn⟩ := outcome_run_eq_ok_iff.mp h
  exact ⟨placeAll_ok hplaced, hn⟩

end Conversion

end TraitSchema
