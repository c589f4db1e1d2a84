import Mathlib.Data.Set.Basic
import TraitSchema.Generation
import TraitSchema.Proofs.FileChanges

namespace TraitSchema

section Outcomes

variable {ε ε' α β : Type} {step : ExceptT ε InWorld α} {next : α → ExceptT ε InWorld β}
  {w w' : World} {e : ε}

/-- How a run ends in a world, and the world that it leaves. -/
def endIn (step : ExceptT ε InWorld α) (w : World) : Except ε α × World := (step.run.run w).run

theorem endIn_bind (step : ExceptT ε InWorld α) (next : α → ExceptT ε InWorld β) (w : World) :
    endIn (step >>= next) w =
      match endIn step w with
      | (.ok x, w₁) => endIn (next x) w₁
      | (.error e, w₁) => (.error e, w₁) := by
  show (ExceptT.bindCont next (step w).1) (step w).2 = match step w with
    | (.ok x, w₁) => endIn (next x) w₁
    | (.error e, w₁) => (.error e, w₁)
  rcases step w with ⟨e | x, w₁⟩ <;> rfl

theorem endIn_bind_of_ok {x : α} (h : endIn step w = (.ok x, w')) :
    endIn (step >>= next) w = endIn (next x) w' := by
  rw [endIn_bind, h]

theorem endIn_pure (x : α) (w : World) :
    endIn (pure x : ExceptT ε InWorld α) w = (.ok x, w) := rfl

theorem endIn_adapt (f : ε → ε') (step : ExceptT ε InWorld α) (w : World) :
    endIn (ExceptT.adapt f step) w = ((endIn step w).1.mapError f, (endIn step w).2) := rfl

theorem error_of_bind (h : endIn (step >>= next) w = (.error e, w')) :
    endIn step w = (.error e, w') ∨
      ∃ x w₁, endIn step w = (.ok x, w₁) ∧ endIn (next x) w₁ = (.error e, w') := by
  rw [endIn_bind] at h
  rcases hs : endIn step w with ⟨e₁ | x, w₁⟩ <;> rw [hs] at h
  · cases h
    exact .inl rfl
  · exact .inr ⟨x, w₁, rfl, h⟩

theorem ok_of_bind {y : β} (h : endIn (step >>= next) w = (.ok y, w')) :
    ∃ x w₁, endIn step w = (.ok x, w₁) ∧ endIn (next x) w₁ = (.ok y, w') := by
  rw [endIn_bind] at h
  rcases hs : endIn step w with ⟨e₁ | x, w₁⟩ <;> rw [hs] at h
  · cases h
  · exact ⟨x, w₁, rfl, h⟩

theorem endIn_adapt_eq_ok_iff {f : ε → ε'} {x : α} :
    endIn (ExceptT.adapt f step) w = (.ok x, w') ↔ endIn step w = (.ok x, w') := by
  rw [endIn_adapt]
  rcases endIn step w with ⟨e₁ | y, w₁⟩ <;> simp [Except.mapError]

/-- The step changes no file but those at the given places. -/
def ChangesOnly (places : Set (List String)) (step : ExceptT ε InWorld α) : Prop :=
  ∀ w, ∀ place ∉ places, (endIn step w).2.files.file? place = w.files.file? place

/-- The step changes no file. -/
abbrev KeepsFiles (step : ExceptT ε InWorld α) : Prop := ChangesOnly ∅ step

/-- The step changes no file if it fails. -/
def KeepsOnFailure (step : ExceptT ε InWorld α) : Prop :=
  ∀ w e w', endIn step w = (.error e, w') → ∀ place, w'.files.file? place = w.files.file? place

variable {places more : Set (List String)}

theorem ChangesOnly.mono (h : ChangesOnly places step) (hp : places ⊆ more) :
    ChangesOnly more step :=
  fun w place hm => h w place fun hplace => hm (hp hplace)

theorem ChangesOnly.bind (h : ChangesOnly places step) (hn : ∀ x, ChangesOnly places (next x)) :
    ChangesOnly places (step >>= next) := by
  intro w place hp
  have hw := h w place hp
  rw [endIn_bind]
  rcases hs : endIn step w with ⟨e | x, w₁⟩ <;> rw [hs] at hw
  · exact hw
  · exact (hn x w₁ place hp).trans hw

theorem ChangesOnly.adapt (h : ChangesOnly places step) (f : ε → ε') :
    ChangesOnly places (ExceptT.adapt f step) :=
  fun w place hp => h w place hp

theorem KeepsFiles.changesOnly (h : KeepsFiles step) : ChangesOnly places step :=
  h.mono (Set.empty_subset places)

theorem keepsFiles_pure (x : α) : KeepsFiles (pure x : ExceptT ε InWorld α) := fun _ _ _ => rfl

theorem changesOnly_mapM {f : α → ExceptT ε InWorld β} {xs : List α}
    (h : ∀ x ∈ xs, ChangesOnly places (f x)) : ChangesOnly places (xs.mapM f) := by
  induction xs with
  | nil => exact (keepsFiles_pure []).changesOnly
  | cons x xs ih =>
    rw [List.mapM_cons]
    refine (h x List.mem_cons_self).bind fun y => ?_
    exact (ih fun z hz => h z (List.mem_cons_of_mem x hz)).bind fun ys =>
      (keepsFiles_pure (y :: ys)).changesOnly

theorem KeepsFiles.onFailure (h : KeepsFiles step) : KeepsOnFailure step := by
  intro w e w' hs place
  have hw := h w place (Set.notMem_empty place)
  rwa [hs] at hw

theorem KeepsFiles.bind_onFailure (h : KeepsFiles step) (hn : ∀ x, KeepsOnFailure (next x)) :
    KeepsOnFailure (step >>= next) := by
  intro w e w' hs place
  obtain hs | ⟨x, w₁, hs, hnext⟩ := error_of_bind hs
  · exact h.onFailure w e w' hs place
  · have hw := h w place (Set.notMem_empty place)
    rw [hs] at hw
    exact (hn x w₁ e w' hnext place).trans hw

/-- Nothing is changed on failure by a step that is followed by one that never fails. -/
theorem KeepsOnFailure.bind_ok (h : KeepsOnFailure step)
    (hn : ∀ x w, ∃ y w', endIn (next x) w = (.ok y, w')) : KeepsOnFailure (step >>= next) := by
  intro w e w' hs place
  obtain hs | ⟨x, w₁, -, hnext⟩ := error_of_bind hs
  · exact h w e w' hs place
  · obtain ⟨y, w₂, hok⟩ := hn x w₁
    cases hok.symm.trans hnext

theorem KeepsOnFailure.adapt (h : KeepsOnFailure step) (f : ε → ε') :
    KeepsOnFailure (ExceptT.adapt f step) := by
  intro w e w' hs place
  rw [endIn_adapt] at hs
  rcases hstep : endIn step w with ⟨e₁ | x, w₁⟩ <;> rw [hstep] at hs <;> cases hs
  exact h w e₁ w₁ hstep place

/-- A list of steps that fails has done the steps before one that fails, and changed no file after
them. -/
theorem error_of_mapM {f : α → ExceptT ε InWorld β} (hf : ∀ x, KeepsOnFailure (f x))
    {xs : List α} (h : endIn (xs.mapM f) w = (.error e, w')) :
    ∃ done x rest ys w₁, xs = done ++ x :: rest ∧ endIn (done.mapM f) w = (.ok ys, w₁) ∧
      ∀ place, w'.files.file? place = w₁.files.file? place := by
  induction xs generalizing w with
  | nil => cases h
  | cons x xs ih =>
    rw [List.mapM_cons] at h
    obtain hx | ⟨y, w₁, hx, hrest⟩ := error_of_bind h
    · -- the first step fails: none is done
      exact ⟨[], x, xs, [], w, rfl, rfl, hf x w e w' hx⟩
    · obtain hxs | ⟨ys, w₂, -, hpure⟩ := error_of_bind hrest
      · obtain ⟨done, z, rest, ys, w₂, hsplit, hdone, hfiles⟩ := ih hxs
        refine ⟨x :: done, z, rest, y :: ys, w₂, by rw [hsplit, List.cons_append], ?_, hfiles⟩
        rw [List.mapM_cons, endIn_bind_of_ok hx, endIn_bind_of_ok hdone, endIn_pure]
      · cases hpure

end Outcomes

end TraitSchema
