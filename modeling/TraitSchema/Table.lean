namespace TraitSchema

/-- Values by name, as pairs in increasing order of the names, one pair a name. -/
abbrev Table (α : Type) := List (String × α)

namespace Table

variable {α β : Type}

def Sorted (t : Table α) : Prop := t.Pairwise fun a b => a.1 < b.1

def get? (t : Table α) (name : String) : Option α :=
  match t with
  | [] => none
  | (k, v) :: rest => if name = k then some v else get? rest name

/-- The table that holds `value` under `name` and agrees with `t` elsewhere. -/
def put (t : Table α) (name : String) (value : α) : Table α :=
  match t with
  | [] => [(name, value)]
  | (k, v) :: rest =>
    if name < k then (name, value) :: (k, v) :: rest
    else if name = k then (name, value) :: rest
    else (k, v) :: put rest name value

/-- A table of the given pairs, where the last value of a name counts. -/
def ofList (pairs : List (String × α)) : Table α :=
  pairs.foldl (fun t pair => t.put pair.1 pair.2) []

def names (t : Table α) : List String := t.map (·.1)

def holds (t : Table α) (name : String) : Bool := (t.get? name).isSome

def mapValues (f : α → β) (t : Table α) : Table β := t.map fun pair => (pair.1, f pair.2)

theorem get?_put_self (t : Table α) (name : String) (value : α) :
    (t.put name value).get? name = some value := by
  induction t with
  | nil => simp [put, get?]
  | cons pair rest ih =>
    simp only [put]
    split
    · simp [get?]
    · split
      · simp [get?]
      · next hne => simp [get?, hne, ih]

theorem get?_put_of_ne (t : Table α) {name other : String} (value : α) (h : other ≠ name) :
    (t.put name value).get? other = t.get? other := by
  induction t with
  | nil => simp [put, get?, h]
  | cons pair rest ih =>
    simp only [put]
    split
    · simp [get?, h]
    · split
      · next he => subst he; simp [get?, h]
      · simp only [get?]; split <;> simp_all

theorem mem_put {t : Table α} {name : String} {value : α} {pair : String × α}
    (h : pair ∈ t.put name value) : pair = (name, value) ∨ pair ∈ t := by
  induction t with
  | nil => simpa [put] using h
  | cons first rest ih =>
    simp only [put] at h
    split at h
    · simpa using h
    · split at h
      · simp only [List.mem_cons] at h ⊢
        exact h.imp_right .inr
      · simp only [List.mem_cons] at h ⊢
        rcases h with h | h
        · exact .inr (.inl h)
        · exact (ih h).imp_right .inr

theorem sorted_put {t : Table α} (h : t.Sorted) (name : String) (value : α) :
    (t.put name value).Sorted := by
  induction t with
  | nil => exact List.pairwise_singleton _ _
  | cons first rest ih =>
    obtain ⟨hfirst, hrest⟩ := List.pairwise_cons.mp h
    simp only [put]
    split
    · next hlt =>
      refine List.pairwise_cons.mpr ⟨?_, h⟩
      intro pair hpair
      rcases List.mem_cons.mp hpair with rfl | hpair
      · exact hlt
      · exact String.lt_trans hlt (hfirst pair hpair)
    · split
      · next he => subst he; exact List.pairwise_cons.mpr ⟨hfirst, hrest⟩
      · next hlt hne =>
        refine List.pairwise_cons.mpr ⟨?_, ih hrest⟩
        intro pair hpair
        rcases mem_put hpair with rfl | hpair
        · exact String.not_le.mp fun hle => hne (String.le_antisymm hle (String.not_lt.mp hlt))
        · exact hfirst pair hpair

theorem sorted_ofList (pairs : List (String × α)) : (ofList pairs).Sorted := by
  suffices h : ∀ t : Table α, t.Sorted →
      (pairs.foldl (fun t pair => t.put pair.1 pair.2) t).Sorted from h [] List.Pairwise.nil
  induction pairs with
  | nil => exact fun t ht => ht
  | cons pair rest ih => exact fun t ht => ih _ (sorted_put ht _ _)

end Table

end TraitSchema
