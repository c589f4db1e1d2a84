import Mathlib.Data.List.Nodup
import TraitSchema.Table

namespace TraitSchema.Table

variable {α β : Type}

theorem get?_put (t : Table α) (name other : String) (value : α) :
    (t.put name value).get? other = if other = name then some value else t.get? other := by
  split
  next he => subst he; exact get?_put_self t other value
  next hne => exact get?_put_of_ne t value hne

theorem get?_append (t u : Table α) (name : String) :
    get? (t ++ u) name = (t.get? name).or (u.get? name) := by
  induction t with
  | nil => simp [get?]
  | cons pair t ih =>
    simp only [List.cons_append, get?]
    split
    · rfl
    · exact ih

/-- The pair that was put last under a name decides what is held under it. -/
theorem get?_foldl_put (pairs : List (String × α)) (t : Table α) (name : String) :
    (pairs.foldl (fun t pair => t.put pair.1 pair.2) t).get? name =
      (get? pairs.reverse name).or (t.get? name) := by
  induction pairs generalizing t with
  | nil => simp [get?]
  | cons pair pairs ih =>
    rw [List.foldl_cons, ih, get?_put, List.reverse_cons, get?_append, Option.or_assoc]
    congr 1
    simp only [get?]
    split <;> rfl

theorem get?_ofList (pairs : List (String × α)) (name : String) :
    (ofList pairs).get? name = get? pairs.reverse name := by
  simp [ofList, get?_foldl_put, get?]

theorem mem_of_get? {t : Table α} {name : String} {value : α} (h : t.get? name = some value) :
    (name, value) ∈ t := by
  induction t with
  | nil => simp [get?] at h
  | cons pair t ih =>
    simp only [get?] at h
    split at h
    next he =>
      cases Option.some.inj h
      subst he
      exact List.mem_cons_self
    next => exact List.mem_cons_of_mem _ (ih h)

theorem get?_eq_none_iff {t : Table α} {name : String} :
    t.get? name = none ↔ name ∉ t.names := by
  induction t with
  | nil => simp [get?, names]
  | cons pair t ih =>
    simp only [get?, names, List.map_cons, List.mem_cons, not_or]
    split
    next he => simp [he]
    next hne => simpa [hne, names] using ih

theorem holds_iff {t : Table α} {name : String} : t.holds name = true ↔ name ∈ t.names := by
  rw [holds, Option.isSome_iff_ne_none, ne_eq, get?_eq_none_iff, not_not]

theorem get?_of_mem {t : Table α} (hn : t.names.Nodup) {name : String} {value : α}
    (h : (name, value) ∈ t) : t.get? name = some value := by
  induction t with
  | nil => simp at h
  | cons pair t ih =>
    obtain ⟨hfirst, hrest⟩ := List.nodup_cons.mp hn
    rcases List.mem_cons.mp h with rfl | h
    · simp [get?]
    · have hm : name ∈ names t := List.mem_map.mpr ⟨(name, value), h, rfl⟩
      have hne : name ≠ pair.1 := ne_of_mem_of_not_mem hm hfirst
      simpa [get?, hne] using ih hrest h

theorem get?_eq_some_iff {t : Table α} (hn : t.names.Nodup) {name : String} {value : α} :
    t.get? name = some value ↔ (name, value) ∈ t :=
  ⟨mem_of_get?, get?_of_mem hn⟩

theorem names_nodup {t : Table α} (h : t.Sorted) : t.names.Nodup := by
  apply List.pairwise_map.mpr
  refine h.imp ?_
  intro a b hlt he
  rw [he] at hlt
  exact String.lt_irrefl _ hlt

theorem names_reverse (t : Table α) : names t.reverse = t.names.reverse :=
  List.map_reverse

theorem mem_ofList {pairs : List (String × α)} (hn : (names pairs).Nodup) {pair : String × α} :
    pair ∈ ofList pairs ↔ pair ∈ pairs := by
  have hr : (names pairs.reverse).Nodup := by
    rw [names_reverse]
    exact List.nodup_reverse.mpr hn
  rw [← get?_eq_some_iff (names_nodup (sorted_ofList pairs)), get?_ofList,
    get?_eq_some_iff hr, List.mem_reverse]

/-- A table made of pairs with distinct names holds these pairs in the order of the names. -/
theorem perm_ofList {pairs : List (String × α)} (hn : (names pairs).Nodup) :
    (ofList pairs).Perm pairs :=
  (List.perm_ext_iff_of_nodup (names_nodup (sorted_ofList pairs)).of_map hn.of_map).mpr
    fun _ => mem_ofList hn

theorem get?_ofList_of_nodup {pairs : List (String × α)} (hn : (names pairs).Nodup)
    (name : String) : (ofList pairs).get? name = get? pairs name := by
  apply Option.ext
  intro value
  rw [get?_eq_some_iff (names_nodup (sorted_ofList pairs)), get?_eq_some_iff hn, mem_ofList hn]

/-- Tables in the order of their names are equal if they have the same pairs. -/
theorem eq_of_mem_iff {t u : Table α} (ht : t.Sorted) (hu : u.Sorted)
    (h : ∀ pair, pair ∈ t ↔ pair ∈ u) : t = u := by
  have hperm : t.Perm u :=
    (List.perm_ext_iff_of_nodup (names_nodup ht).of_map (names_nodup hu).of_map).mpr h
  refine hperm.eq_of_pairwise ?_ ht hu
  exact fun a b _ _ hab hba => absurd (String.lt_trans hab hba) (String.lt_irrefl _)

theorem eq_of_get?_eq {t u : Table α} (ht : t.Sorted) (hu : u.Sorted)
    (h : ∀ name, t.get? name = u.get? name) : t = u := by
  refine eq_of_mem_iff ht hu ?_
  rintro ⟨name, value⟩
  rw [← get?_eq_some_iff (names_nodup ht), ← get?_eq_some_iff (names_nodup hu), h]

theorem ofList_of_sorted {t : Table α} (h : t.Sorted) : ofList t = t :=
  eq_of_get?_eq (sorted_ofList t) h (get?_ofList_of_nodup (names_nodup h))

theorem mem_mapValues {f : α → β} {t : Table α} {pair : String × β} :
    pair ∈ t.mapValues f ↔ ∃ value, (pair.1, value) ∈ t ∧ f value = pair.2 := by
  simp only [mapValues, List.mem_map]
  constructor
  · rintro ⟨⟨name, value⟩, hm, rfl⟩
    exact ⟨value, hm, rfl⟩
  · rintro ⟨value, hm, he⟩
    exact ⟨_, hm, Prod.ext rfl he⟩

theorem get?_mapValues (f : α → β) (t : Table α) (name : String) :
    (t.mapValues f).get? name = (t.get? name).map f := by
  induction t with
  | nil => rfl
  | cons pair t ih =>
    simp only [mapValues, List.map_cons, get?] at ih ⊢
    split
    · rfl
    · exact ih

end TraitSchema.Table
