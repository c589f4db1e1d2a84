import TraitSchema.Json.Reader
import TraitSchema.Proofs.DocumentMembers

namespace TraitSchema

theorem Table.mem_of_mem_ofList {α : Type} {pairs : List (String × α)} {pair : String × α}
    (h : pair ∈ Table.ofList pairs) : pair ∈ pairs := by
  suffices hs : ∀ t : Table α, pair ∈ pairs.foldl (fun t pair => t.put pair.1 pair.2) t →
      pair ∈ t ∨ pair ∈ pairs from (hs [] h).resolve_left List.not_mem_nil
  clear h
  induction pairs with
  | nil => exact fun t ht => .inl ht
  | cons first pairs ih =>
    intro t ht
    rcases ih _ ht with ht | ht
    · exact (Table.mem_put ht).elim (fun he => .inr (he ▸ List.mem_cons_self)) .inl
    · exact .inr (List.mem_cons_of_mem first ht)

namespace Json

theorem orderedItems_iff {items : List Json} :
    OrderedItems items ↔ ∀ item ∈ items, item.Ordered := by
  induction items with
  | nil => exact iff_of_true trivial fun _ h => nomatch h
  | cons item items ih =>
    rw [List.forall_mem_cons, ← ih]
    exact Iff.rfl

theorem ordered_ofMembers {members : List (String × Json)}
    (h : ∀ pair ∈ members, pair.2.Ordered) : (ofMembers members).Ordered :=
  ⟨Table.sorted_ofList members,
    orderedMembers_iff.mpr fun pair hp => h pair (Table.mem_of_mem_ofList hp)⟩

/-- The value holds no other. -/
def IsScalar : Json → Prop
  | .array _ | .object _ => False
  | _ => True

theorem IsScalar.ordered {value : Json} (h : value.IsScalar) : value.Ordered := by
  cases value with
  | array => exact h.elim
  | object => exact h.elim
  | _ => trivial

theorem isScalar_of_scalar? {text rest : List Char} {value : Json}
    (h : scalar? text = some (value, rest)) : value.IsScalar := by
  unfold scalar? at h
  split at h
  · cases h; trivial
  · cases h; trivial
  · cases h; trivial
  · obtain ⟨_, -, he⟩ := Option.map_eq_some_iff.mp h
    cases he
    trivial
  · obtain ⟨_, -, he⟩ := Option.map_eq_some_iff.mp h
    cases he
    trivial

section Listings

variable {α : Type} {P : α → Prop} {item : Reader α} {close : Char}

/-- What holds of every item that can be read holds of all items of a listing. -/
theorem forall_of_items? (hitem : ∀ text x rest, item text = some (x, rest) → P x) {fuel : Nat}
    {text rest : List Char} {xs : List α} (h : items? close item fuel text = some (xs, rest)) :
    ∀ x ∈ xs, P x := by
  induction fuel generalizing text xs with
  | zero => cases h
  | succ fuel ih =>
    rw [items?] at h
    obtain ⟨⟨x, left⟩, hx, h⟩ := Option.bind_eq_some_iff.mp h
    dsimp only at h
    split at h
    · obtain ⟨⟨ys, left'⟩, hys, he⟩ := Option.bind_eq_some_iff.mp h
      cases he
      exact List.forall_mem_cons.mpr ⟨hitem _ _ _ hx, ih hys⟩
    · split at h
      · cases h
        exact List.forall_mem_singleton.mpr (hitem _ _ _ hx)
      · cases h
    · cases h

theorem forall_of_listing? (hitem : ∀ text x rest, item text = some (x, rest) → P x) {fuel : Nat}
    {text rest : List Char} {xs : List α} (h : listing? close item fuel text = some (xs, rest)) :
    ∀ x ∈ xs, P x := by
  unfold listing? at h
  split at h
  · cases h
  · split at h
    · cases h
      exact fun _ hx => nomatch hx
    · exact forall_of_items? hitem h

end Listings

theorem forall_of_member? {P : Json → Prop} {value : Reader Json}
    (hvalue : ∀ text v rest, value text = some (v, rest) → P v) {text rest : List Char}
    {member : String × Json} (h : member? value text = some (member, rest)) : P member.2 := by
  unfold member? at h
  split at h
  · obtain ⟨⟨key, left⟩, -, h⟩ := Option.bind_eq_some_iff.mp h
    dsimp only at h
    split at h
    · obtain ⟨⟨v, left'⟩, hv, he⟩ := Option.bind_eq_some_iff.mp h
      cases he
      exact hvalue _ _ _ hv
    · cases h
  · cases h

/-- What holds of scalars and, one level up, of containers of such values holds of every value that
can be read. -/
theorem forall_of_value? {P : (depth : Nat) → Json → Prop}
    (hscalar : ∀ depth value, IsScalar value → P depth value)
    (harray : ∀ depth items, (∀ item ∈ items, P depth item) → P (depth + 1) (.array items))
    (hobject : ∀ depth members, (∀ member ∈ members, P depth member.2) →
      P (depth + 1) (ofMembers members))
    {fuel depth : Nat} {text rest : List Char} {value : Json}
    (h : value? fuel depth text = some (value, rest)) : P depth value := by
  induction depth generalizing text rest value with
  | zero => exact hscalar 0 value (isScalar_of_scalar? h)
  | succ depth ih =>
    unfold value? at h
    split at h
    · obtain ⟨⟨items, left⟩, hitems, he⟩ := Option.map_eq_some_iff.mp h
      cases he
      exact harray depth items (forall_of_listing? (fun _ _ _ hx => ih hx) hitems)
    · obtain ⟨⟨members, left⟩, hmembers, he⟩ := Option.map_eq_some_iff.mp h
      cases he
      have hmember : ∀ text member rest, member? (value? fuel depth) text = some (member, rest) →
          P depth member.2 := fun _ _ _ => forall_of_member? fun _ _ _ hv => ih hv
      exact hobject depth members (forall_of_listing? hmember hmembers)
    · exact hscalar (depth + 1) value (isScalar_of_scalar? h)

theorem ordered_value? {fuel depth : Nat} {text rest : List Char} {value : Json}
    (h : value? fuel depth text = some (value, rest)) : value.Ordered :=
  forall_of_value? (P := fun _ value => value.Ordered) (fun _ _ => IsScalar.ordered)
    (fun _ _ => orderedItems_iff.mpr) (fun _ _ => ordered_ofMembers) h

/-- Every document that is read is ordered. -/
theorem ordered_of_read? {text : String} {value : Json} (h : read? text = some value) :
    value.Ordered := by
  obtain ⟨⟨found, rest⟩, hfound, h⟩ := Option.bind_eq_some_iff.mp h
  dsimp only at h
  split at h
  · cases h
    exact ordered_value? hfound
  · cases h

end Json

end TraitSchema
