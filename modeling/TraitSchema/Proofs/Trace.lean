import TraitSchema.Traced

namespace TraitSchema

namespace Traced

variable {α β : Type}

theorem bind_of_ok {step : Traced α} {x : α} (h : step.outcome = .ok x) (next : α → Traced β) :
    step >>= next = ⟨step.events ++ (next x).events, (next x).outcome⟩ := by
  show Traced.bind step next = _
  rw [Traced.bind, h]

theorem bind_of_error {step : Traced α} {e : SchemaError} (h : step.outcome = .error e)
    (next : α → Traced β) : step >>= next = ⟨step.events, .error e⟩ := by
  show Traced.bind step next = _
  rw [Traced.bind, h]

theorem outcome_bind (step : Traced α) (next : α → Traced β) :
    (step >>= next).outcome = step.outcome >>= fun x => (next x).outcome := by
  cases h : step.outcome with
  | ok x => rw [bind_of_ok h]; rfl
  | error e => rw [bind_of_error h]; rfl

theorem ok_of_bind {step : Traced α} {next : α → Traced β} {y : β}
    (h : (step >>= next).outcome = .ok y) :
    ∃ x, step.outcome = .ok x ∧ (next x).outcome = .ok y := by
  cases hs : step.outcome with
  | ok x => exact ⟨x, rfl, by rwa [bind_of_ok hs] at h⟩
  | error e => simp [bind_of_error hs] at h

theorem outcome_foldlM (f : β → α → Traced β) (xs : List α) (b : β) :
    (xs.foldlM f b).outcome = xs.foldlM (fun b x => (f b x).outcome) b := by
  induction xs generalizing b with
  | nil => rfl
  | cons x xs ih =>
    rw [List.foldlM_cons, List.foldlM_cons, outcome_bind]
    exact congrArg _ (funext ih)

/-- A step that is taken on a condition only, in front of others. -/
theorem bind_ite_pure (condition : Prop) [Decidable condition] (step : Traced Unit)
    (next : Unit → Traced α) :
    (if condition then step else pure ()) >>= next =
      if condition then step >>= next else next () := by
  split <;> rfl

/-- Reports an event if there is reason to. -/
def reportIf (reason : Prop) [Decidable reason] (event : Event) : Traced Unit :=
  if reason then report event else pure ()

theorem outcome_reportIf (reason : Prop) [Decidable reason] (event : Event) :
    (reportIf reason event).outcome = .ok () := by
  unfold reportIf
  split <;> rfl

theorem outcome_reportIf_bind (reason : Prop) [Decidable reason] (event : Event)
    (next : Unit → Traced α) : (reportIf reason event >>= next).outcome = (next ()).outcome := by
  rw [bind_of_ok (outcome_reportIf reason event)]

end Traced

end TraitSchema
