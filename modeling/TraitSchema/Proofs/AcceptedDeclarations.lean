import Mathlib.Data.List.Induction
import TraitSchema.Proofs.FirstDeclaration

namespace TraitSchema

/-- A fragment admits a placement if nothing else stands under its name. -/
def Fragment.Admits (f : Fragment) (p : Placement) : Prop :=
  ∀ first, f.find? p.name = some first → first = p

theorem Fragment.admits_iff {f : Fragment} {p : Placement} :
    f.Admits p ↔ ∀ kept, (f.insert p).2 ≠ .conflict kept := by
  rw [Admits]
  cases hf : f.find? p.name with
  | none => simp [(insert_of_new hf).2.2]
  | some first =>
    by_cases he : first = p <;> simp [insert_of_taken hf, he]

namespace Conversion

/-- The declaration is acceptable by itself: the matrix has no fault there, and in strict mode it
knows the trait, and its tag has a known kind. -/
def Accepts (c : Conversion) (d : Declaration) : Prop :=
  (c.support d).outcome = .ok (c.supported d) ∧
    (c.checkType d (c.placementOf d)).outcome = .ok ()

/-- In strict mode the declarations of one name ask for the same place. -/
def Agree (c : Conversion) (d e : Declaration) : Prop :=
  c.mode = .strict → d.propertyName = e.propertyName → c.placementOf d = c.placementOf e

theorem settle_eq_ok_iff {c : Conversion} {d : Declaration} {result : Fragment × InsertOutcome}
    {f : Fragment} :
    (c.settle d result).outcome = .ok f ↔
      f = result.1 ∧ (c.mode = .strict → ∀ kept, result.2 ≠ .conflict kept) := by
  constructor
  · intro h
    refine ⟨settle_ok h, fun hm kept hr => ?_⟩
    rw [settle, hr, hm] at h
    cases h
  · rintro ⟨rfl, hstrict⟩
    unfold settle
    cases hr : result.2 with
    | inserted => rfl
    | duplicate => rfl
    | conflict kept =>
      cases hm : c.mode with
      | lenient => rfl
      | strict => exact absurd hr (hstrict hm kept)

theorem place_eq_ok_iff {c : Conversion} {f placed : Fragment} {d : Declaration} :
    (c.place f d).outcome = .ok placed ↔
      c.Accepts d ∧ (c.mode = .strict → f.Admits (c.placementOf d)) ∧
        placed = (f.insert (c.placementOf d)).1 := by
  constructor
  · intro h
    have hplaced := place_ok h
    rw [place_eq] at h
    obtain ⟨ops, hops, h⟩ := Traced.ok_of_bind h
    obtain ⟨_, htype, h⟩ := Traced.ok_of_bind h
    cases support_ok hops
    refine ⟨⟨hops, htype⟩, fun hm => ?_, hplaced⟩
    exact Fragment.admits_iff.mpr ((settle_eq_ok_iff.mp h).2 hm)
  · rintro ⟨⟨hops, htype⟩, hstrict, rfl⟩
    have htype : (c.checkType d (c.placement d (c.supported d))).outcome = .ok () := htype
    rw [place_eq, Traced.bind_of_ok hops, Traced.bind_of_ok htype]
    exact settle_eq_ok_iff.mpr ⟨rfl, fun hm => Fragment.admits_iff.mp (hstrict hm)⟩

theorem Agree.symm {c : Conversion} {d e : Declaration} (h : c.Agree d e) : c.Agree e d :=
  fun hm hname => (h hm hname.symm).symm

/-- What stands under a name after declarations have been placed comes from one of them. -/
theorem admits_placeAll_iff {c : Conversion} {ds : List Declaration}
    (hagree : ∀ a ∈ ds, ∀ b ∈ ds, c.Agree a b) (hm : c.mode = .strict) (d : Declaration) :
    ((Fragment.empty c.adminType).insertAll (ds.map c.placementOf)).Admits (c.placementOf d) ↔
      ∀ e ∈ ds, c.Agree e d := by
  have hfind : ((Fragment.empty c.adminType).insertAll (ds.map c.placementOf)).find?
      (c.placementOf d).name =
        (ds.find? fun a => a.propertyName == d.propertyName).map c.placementOf :=
    find?_placeAll c ds d.propertyName
  rw [Fragment.Admits, hfind]
  constructor
  · intro hadmits e he _ hname
    have hfound : (ds.find? fun a => a.propertyName == d.propertyName).isSome = true :=
      List.find?_isSome.mpr ⟨e, he, by simp [hname]⟩
    obtain ⟨first, hfirst⟩ := Option.isSome_iff_exists.mp hfound
    have hfirstName : first.propertyName = d.propertyName := by simpa using List.find?_some hfirst
    calc c.placementOf e
        = c.placementOf first := hagree e he first (List.mem_of_find?_eq_some hfirst) hm
          (hname.trans hfirstName.symm)
      _ = c.placementOf d := hadmits _ (by rw [hfirst, Option.map_some])
  · intro hall p hp
    obtain ⟨first, hfirst, rfl⟩ := Option.map_eq_some_iff.mp hp
    exact hall first (List.mem_of_find?_eq_some hfirst) hm (by simpa using List.find?_some hfirst)

/-- Placing declarations succeeds exactly if each of them is acceptable and no two disagree. -/
theorem exists_placeAll_iff (c : Conversion) (ds : List Declaration) :
    (∃ f, ds.foldlM (fun f d => (c.place f d).outcome) (.empty c.adminType) = .ok f) ↔
      (∀ d ∈ ds, c.Accepts d) ∧ ∀ d ∈ ds, ∀ e ∈ ds, c.Agree d e := by
  -- from the end, since the last declaration meets what all the others have left
  induction ds using List.reverseRecOn with
  | nil => exact iff_of_true ⟨_, rfl⟩ ⟨(fun _ h => nomatch h), fun _ h => nomatch h⟩
  | append_singleton ds d ih =>
    have hlast : d ∈ ds ++ [d] := List.mem_append_right _ (List.mem_singleton_self d)
    constructor
    · rintro ⟨placed, h⟩
      obtain ⟨f, hf, hd⟩ := foldlM_concat_eq_ok_iff.mp h
      obtain ⟨haccepts, hagree⟩ := ih.mp ⟨f, hf⟩
      obtain ⟨hacceptsLast, hadmits, -⟩ := place_eq_ok_iff.mp hd
      have hagreeLast : ∀ e ∈ ds, c.Agree e d := by
        intro e he hm
        rw [placeAll_ok hf] at hadmits
        exact (admits_placeAll_iff hagree hm d).mp (hadmits hm) e he hm
      refine ⟨?_, fun a ha b hb => ?_⟩
      · exact List.forall_mem_append.mpr ⟨haccepts, List.forall_mem_singleton.mpr hacceptsLast⟩
      · rcases List.mem_append.mp ha with ha | ha <;> rcases List.mem_append.mp hb with hb | hb
        · exact hagree a ha b hb
        · exact List.mem_singleton.mp hb ▸ hagreeLast a ha
        · exact (List.mem_singleton.mp ha ▸ hagreeLast b hb).symm
        · rw [List.mem_singleton.mp ha, List.mem_singleton.mp hb]
          exact fun _ _ => rfl
    · rintro ⟨haccepts, hagree⟩
      have hfront : ∀ a ∈ ds, ∀ b ∈ ds, c.Agree a b := fun a ha b hb =>
        hagree a (List.mem_append_left _ ha) b (List.mem_append_left _ hb)
      obtain ⟨f, hf⟩ := ih.mpr ⟨fun a ha => haccepts a (List.mem_append_left _ ha), hfront⟩
      refine ⟨(f.insert (c.placementOf d)).1, foldlM_concat_eq_ok_iff.mpr ⟨f, hf,
        place_eq_ok_iff.mpr ⟨haccepts d hlast, fun hm => ?_, rfl⟩⟩⟩
      rw [placeAll_ok hf]
      exact (admits_placeAll_iff hfront hm d).mpr fun e he =>
        hagree e (List.mem_append_left _ he) d hlast

theorem accepts_of_run {c : Conversion} {source : List Char} {f : Fragment} {n : Nat}
    (h : (c.run source).outcome = .ok (f, n)) :
    ∀ d ∈ KeyMap.declared c.adminType source, c.Accepts d :=
  ((exists_placeAll_iff c _).mp ⟨f, (outcome_run_eq_ok_iff.mp h).1⟩).1

theorem placeAll_again {c : Conversion} {ds es : List Declaration} {f : Fragment}
    (hf : ds.foldlM (fun f d => (c.place f d).outcome) (.empty c.adminType) = .ok f)
    (hsub : ∀ e ∈ es, e ∈ ds) : es.foldlM (fun f d => (c.place f d).outcome) f = .ok f := by
  induction es with
  | nil => rfl
  | cons e es ih =>
    obtain ⟨he, hes⟩ := List.forall_mem_cons.mp hsub
    obtain ⟨haccepts, hagree⟩ := (exists_placeAll_iff c ds).mp ⟨f, hf⟩
    have hplaced := placeAll_ok hf
    have htaken : (f.find? (c.placementOf e).name).isSome = true := by
      rw [hplaced]
      refine (congrArg Option.isSome (find?_placeAll c ds e.propertyName)).trans ?_
      rw [Option.isSome_map]
      exact List.find?_isSome.mpr ⟨e, he, beq_self_eq_true _⟩
    obtain ⟨first, hfirst⟩ := Option.isSome_iff_exists.mp htaken
    have hstep : (c.place f e).outcome = .ok f := by
      refine place_eq_ok_iff.mpr ⟨haccepts e he, fun hm => ?_, ?_⟩
      · rw [hplaced]
        exact (admits_placeAll_iff hagree hm e).mpr fun d hd => hagree d hd e he
      · rw [Fragment.insert_of_taken hfirst]
    rw [List.foldlM_cons, hstep]
    exact ih hes

end Conversion

end TraitSchema
