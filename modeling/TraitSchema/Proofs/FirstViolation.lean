import TraitSchema.Proofs.FirstDeclaration

namespace TraitSchema

/-- The event reports what strict mode takes for an error. -/
def Event.isViolation : Event → Bool
  | .missingEntry _ => true
  | .unresolvedType _ _ => true
  | .conflict _ _ => true
  | _ => false

/-- The error is one that lenient mode only reports. -/
def SchemaError.isViolation : SchemaError → Bool
  | .missingEntry _ _ _ => true
  | .unresolvedType _ _ => true
  | .collision _ _ => true
  | _ => false

/-- The error of strict mode and the event of lenient mode for a violation by a declared trait. -/
inductive Violation (t : AdminType) (d : Declaration) : SchemaError → Event → Prop where
  | missingEntry :
    Violation t d (.missingEntry t d.segment d.supportKey) (.missingEntry d.name)
  | unresolvedType : Violation t d (.unresolvedType d.name d.tag) (.unresolvedType d.name d.tag)
  | collision (kept : Bucket) : Violation t d (.collision t d.name) (.conflict d.name kept)

theorem Violation.error {t : AdminType} {d : Declaration} {e : SchemaError} {event : Event}
    (h : Violation t d e event) : e.isViolation = true := by
  cases h <;> rfl

theorem Violation.event {t : AdminType} {d : Declaration} {e : SchemaError} {event : Event}
    (h : Violation t d e event) : event.isViolation = true := by
  cases h <;> rfl

/-- Nothing reported is a violation. -/
def Traced.Quiet {α : Type} (step : Traced α) : Prop :=
  ∀ event ∈ step.events, event.isViolation = false

/-- The strict step is the lenient one, or it stops where the lenient one first reports a violation
by one of the declarations. -/
inductive CutAtViolation (t : AdminType) (ds : List Declaration) {α : Type}
    (strict lenient : Traced α) : Prop where
  | same (agree : strict = lenient) (quiet : strict.Quiet)
  | cut (d : Declaration) (mem : d ∈ ds) (e : SchemaError) (event : Event)
    (violation : Violation t d e event) (stop : strict.outcome = .error e) (quiet : strict.Quiet)
    (rest : List Event) (goesOn : lenient.events = strict.events ++ event :: rest)

namespace CutAtViolation

variable {t : AdminType} {ds : List Declaration} {α β : Type}

theorem refl {step : Traced α} (h : step.Quiet) : CutAtViolation t ds step step := .same rfl h

theorem pure (x : α) : CutAtViolation t ds (Pure.pure x) (Pure.pure x) :=
  refl (by intro event h; cases h)

theorem bind {strict lenient : Traced α} {strictNext lenientNext : α → Traced β}
    (h : CutAtViolation t ds strict lenient)
    (hnext : ∀ x, CutAtViolation t ds (strictNext x) (lenientNext x)) :
    CutAtViolation t ds (strict >>= strictNext) (lenient >>= lenientNext) := by
  cases h with
  | same agree quiet =>
    subst agree
    cases hs : strict.outcome with
    | error e =>
      rw [Traced.bind_of_error hs, Traced.bind_of_error hs]
      exact refl quiet
    | ok x =>
      rw [Traced.bind_of_ok hs, Traced.bind_of_ok hs]
      have append : ∀ events, (∀ event ∈ events, event.isViolation = false) →
          ∀ event ∈ strict.events ++ events, event.isViolation = false :=
        fun events he event hm => (List.mem_append.mp hm).elim (quiet event) (he event)
      cases hnext x with
      | same agree quietNext =>
        rw [← agree]
        exact refl (append _ quietNext)
      | cut d mem e event violation stop quietNext rest goesOn =>
        refine .cut d mem e event violation stop (append _ quietNext) rest ?_
        simp only [goesOn, List.append_assoc]
  | cut d mem e event violation stop quiet rest goesOn =>
    rw [Traced.bind_of_error stop]
    cases hl : lenient.outcome with
    | error _ =>
      rw [Traced.bind_of_error hl]
      exact .cut d mem e event violation rfl quiet rest goesOn
    | ok x =>
      rw [Traced.bind_of_ok hl]
      refine .cut d mem e event violation rfl quiet (rest ++ (lenientNext x).events) ?_
      simp only [goesOn, List.append_assoc, List.cons_append]

theorem foldlM {f g : β → α → Traced β} {xs : List α}
    (h : ∀ b, ∀ x ∈ xs, CutAtViolation t ds (f b x) (g b x)) (b : β) :
    CutAtViolation t ds (xs.foldlM f b) (xs.foldlM g b) := by
  induction xs generalizing b with
  | nil => exact pure b
  | cons x xs ih =>
    rw [List.foldlM_cons, List.foldlM_cons]
    exact bind (h b x List.mem_cons_self)
      (ih fun b y hy => h b y (List.mem_cons_of_mem _ hy))

theorem reportIf (reason : Prop) [Decidable reason] {event : Event}
    (h : event.isViolation = false) :
    CutAtViolation t ds (Traced.reportIf reason event) (Traced.reportIf reason event) := by
  apply refl
  intro reported hr
  unfold Traced.reportIf at hr
  split at hr
  next => exact List.mem_singleton.mp hr ▸ h
  next => cases hr

theorem violation {d : Declaration} {e : SchemaError} {event : Event} (hd : d ∈ ds)
    (h : Violation t d e event) :
    CutAtViolation t ds (Mode.violation .strict e event) (Mode.violation .lenient e event) :=
  .cut d hd e event h rfl (by intro event h; cases h) [] rfl

theorem eq_of_ok {strict lenient : Traced α} (h : CutAtViolation t ds strict lenient) {x : α}
    (hx : strict.outcome = .ok x) : strict = lenient ∧ strict.Quiet := by
  cases h with
  | same agree quiet => exact ⟨agree, quiet⟩
  | cut d mem e event violation stop quiet rest goesOn => cases hx.symm.trans stop

theorem eq_of_quiet {strict lenient : Traced α} (h : CutAtViolation t ds strict lenient)
    (hq : lenient.Quiet) : strict = lenient := by
  cases h with
  | same agree quiet => exact agree
  | cut d mem e event violation stop quiet rest goesOn =>
    have hm : event ∈ lenient.events := by simp [goesOn]
    cases violation.event.symm.trans (hq event hm)

/-- The strict step goes as far as the lenient one, or to a violation that it takes for an error. -/
theorem eq_or_cut {strict lenient : Traced α} (h : CutAtViolation t ds strict lenient)
    {e : SchemaError} (he : strict.outcome = .error e) :
    strict = lenient ∨ ∃ d ∈ ds, ∃ event rest, Violation t d e event ∧
      lenient.events = strict.events ++ event :: rest := by
  cases h with
  | same agree quiet => exact .inl agree
  | cut d mem e' event violation stop quiet rest goesOn =>
    cases Except.error.inj (stop.symm.trans he)
    exact .inr ⟨d, mem, event, rest, violation, goesOn⟩

theorem error_of_error {strict lenient : Traced α} (h : CutAtViolation t ds strict lenient)
    {e : SchemaError} (he : lenient.outcome = .error e) :
    ∃ e', strict.outcome = .error e' := by
  cases h with
  | same agree quiet => exact ⟨e, agree ▸ he⟩
  | cut d mem e' event violation stop quiet rest goesOn => exact ⟨e', stop⟩

end CutAtViolation

namespace Conversion

variable {t : AdminType} {matrix : SupportMatrix} {ds : List Declaration}

theorem support_cut {d : Declaration} (hd : d ∈ ds) :
    CutAtViolation t ds (support ⟨.strict, t, matrix⟩ d) (support ⟨.lenient, t, matrix⟩ d) := by
  rw [support_eq, support_eq]
  dsimp only
  split
  next => exact .pure _
  next =>
    rcases matrix.entries d.segment d.supportKey with error | _ | entries
    · exact .refl (by intro event h; cases h)
    · exact .bind (.violation hd .missingEntry) fun _ => .pure _
    · exact .pure _

theorem checkType_cut {d : Declaration} (hd : d ∈ ds) (p : Placement) :
    CutAtViolation t ds (checkType ⟨.strict, t, matrix⟩ d p)
      (checkType ⟨.lenient, t, matrix⟩ d p) := by
  unfold checkType
  split
  next => exact .violation hd .unresolvedType
  next => exact .pure _

theorem settle_cut {d : Declaration} (hd : d ∈ ds) (result : Fragment × InsertOutcome) :
    CutAtViolation t ds (settle ⟨.strict, t, matrix⟩ d result)
      (settle ⟨.lenient, t, matrix⟩ d result) := by
  unfold settle
  split
  next => exact .pure _
  next =>
    refine .bind (.refl ?_) fun _ => .pure _
    intro event h
    exact List.mem_singleton.mp h ▸ rfl
  next kept _ => exact .bind (.violation hd (.collision kept)) fun _ => .pure _

theorem place_cut {d : Declaration} (hd : d ∈ ds) (f : Fragment) :
    CutAtViolation t ds (place ⟨.strict, t, matrix⟩ f d) (place ⟨.lenient, t, matrix⟩ f d) := by
  rw [place_eq, place_eq]
  exact .bind (support_cut hd) fun _ => .bind (checkType_cut hd _) fun _ => settle_cut hd _

theorem placeSegment_cut {declared : List Char} {segment : String}
    (hds : ∀ d ∈ KeyMap.records segment declared, d ∈ ds) (f : Fragment) :
    CutAtViolation t ds (placeSegment ⟨.strict, t, matrix⟩ declared f segment)
      (placeSegment ⟨.lenient, t, matrix⟩ declared f segment) := by
  rw [placeSegment_eq, placeSegment_eq]
  exact .bind (.reportIf _ rfl) fun _ => .foldlM (fun f d hd => place_cut (hds d hd) f) f

theorem run_cut (t : AdminType) (matrix : SupportMatrix) (source : List Char) :
    CutAtViolation t (KeyMap.declared t source) (run ⟨.strict, t, matrix⟩ source)
      (run ⟨.lenient, t, matrix⟩ source) := by
  rw [run_eq, run_eq]
  refine .bind (.reportIf _ rfl) fun _ => .bind ?_ fun f =>
    .bind (.reportIf _ rfl) fun _ => .pure _
  refine .foldlM (fun f segment hs => placeSegment_cut ?_ f) _
  exact fun d hd => List.mem_flatMap.mpr ⟨segment, hs, hd⟩

theorem entries_of_fault? {c : Conversion} {d : Declaration} {error : MatrixError}
    (h : c.fault? d = some error) : c.matrix.entries d.segment d.supportKey = .error error := by
  unfold fault? at h
  split at h
  next => cases h
  next =>
    split at h
    next he => exact he.trans (congrArg Except.error (Option.some.inj h))
    next => cases h

/-- A lenient conversion fails only with an error that the matrix gives for a declared trait. -/
theorem error_of_lenient_run {source : List Char} {e : SchemaError}
    (h : (run ⟨.lenient, t, matrix⟩ source).outcome = .error e) :
    ∃ d ∈ KeyMap.declared t source, ∃ error,
      matrix.entries d.segment d.supportKey = .error error ∧ e = .matrix error := by
  obtain ⟨before, d, after, error, hd, -, herror, rfl⟩ :=
    (error_of_lenient_run_iff rfl source e).mp h
  have hmem : d ∈ KeyMap.declared t source := hd ▸ List.mem_append_cons_self
  exact ⟨d, hmem, error, entries_of_fault? herror, rfl⟩

/-- A strict conversion that succeeds is the lenient one, and it succeeds exactly when the lenient
one does without a violation. One that fails reports what the lenient one reports before its first
violation, which is by the same declared trait, unless the matrix is at fault: that stops both. -/
theorem strict_run_cuts_lenient_run (t : AdminType) (matrix : SupportMatrix)
    (source : List Char) :
    let strict := run ⟨.strict, t, matrix⟩ source
    let lenient := run ⟨.lenient, t, matrix⟩ source
    (∀ result, strict.outcome = .ok result →
      lenient.outcome = .ok result ∧ lenient.events = strict.events) ∧
    ((∃ result, strict.outcome = .ok result) ↔
      (∃ result, lenient.outcome = .ok result) ∧
        ∀ event ∈ lenient.events, event.isViolation = false) ∧
    (∀ e, strict.outcome = .error e →
      strict.events <+: lenient.events ∧
        (e.isViolation = true → ∃ d ∈ KeyMap.declared t source, ∃ event rest,
          Violation t d e event ∧ lenient.events = strict.events ++ event :: rest)) ∧
    (∀ e, lenient.outcome = .error e → ∃ d ∈ KeyMap.declared t source, ∃ error,
      matrix.entries d.segment d.supportKey = .error error ∧ e = .matrix error) ∧
    (∀ error, strict.outcome = .error (.matrix error) →
      lenient.outcome = .error (.matrix error) ∧ lenient.events = strict.events) ∧
    ((∃ e, lenient.outcome = .error e) → ∃ e, strict.outcome = .error e) := by
  intro strict lenient
  have hcut : CutAtViolation t (KeyMap.declared t source) strict lenient := run_cut t matrix source
  refine ⟨?_, ⟨?_, ?_⟩, ?_, fun e => error_of_lenient_run, ?_,
    fun ⟨e, he⟩ => hcut.error_of_error he⟩
  · intro result h
    rw [← (hcut.eq_of_ok h).1]
    exact ⟨h, rfl⟩
  · rintro ⟨result, h⟩
    obtain ⟨heq, hquiet⟩ := hcut.eq_of_ok h
    rw [← heq]
    exact ⟨⟨result, h⟩, hquiet⟩
  · rintro ⟨hok, hquiet⟩
    rw [hcut.eq_of_quiet hquiet]
    exact hok
  · intro e he
    rcases hcut.eq_or_cut he with heq | ⟨d, hd, event, rest, hv, hrest⟩
    · rw [← heq]
      refine ⟨List.prefix_rfl, fun hviolation => ?_⟩
      -- a run that is not cut stops at a bad record, and that is no violation
      obtain ⟨_, -, _, -, rfl⟩ := error_of_lenient_run (heq ▸ he)
      cases hviolation
    · exact ⟨⟨event :: rest, hrest.symm⟩, fun _ => ⟨d, hd, event, rest, hv, hrest⟩⟩
  · intro error he
    rcases hcut.eq_or_cut he with heq | ⟨d, -, event, rest, hv, -⟩
    · rw [← heq]
      exact ⟨he, rfl⟩
    · cases hv

end Conversion

end TraitSchema
