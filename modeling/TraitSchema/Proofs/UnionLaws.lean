import TraitSchema.Proofs.UnionPaths
import TraitSchema.Proofs.WrittenDocuments

namespace TraitSchema.Json

theorem Ordered.eq_of_get?_eq {left right : Json} (hl : left.Ordered) (hr : right.Ordered)
    (hobjects : left.isObject = true ∧ right.isObject = true)
    (h : ∀ key, left.get? key = right.get? key) : left = right := by
  obtain ⟨lefts, rfl⟩ := eq_object_of_isObject hobjects.1
  obtain ⟨rights, rfl⟩ := eq_object_of_isObject hobjects.2
  exact congrArg Json.object (Table.eq_of_get?_eq hl.1 hr.1 h)

theorem unite_self (n : Nat) {value : Json} (h : value.Ordered) : unite n value value = value := by
  induction n generalizing value with
  | zero => exact unite_zero value value
  | succ n ih =>
    by_cases hobject : value.isObject = true
    · refine (ordered_unite (n + 1) h h).eq_of_get?_eq h ⟨isObject_unite hobject, hobject⟩ ?_
      intro key
      rw [get?_unite h ⟨hobject, hobject⟩]
      cases hg : value.get? key with
      | none => rfl
      | some member => exact congrArg some (ih (h.get? hg))
    · exact unite_of_not_isObject _ fun hobjects => hobject hobjects.1

/-- What has been united with a document once is not changed when it is united with it again. -/
theorem unite_unite_right (n : Nat) {left right : Json} (hl : left.Ordered) (hr : right.Ordered) :
    unite n (unite n left right) right = unite n left right := by
  induction n generalizing left right with
  | zero => rw [unite_zero, unite_zero]
  | succ n ih =>
    by_cases hobjects : left.isObject = true ∧ right.isObject = true
    · have hunion : (unite (n + 1) left right).isObject = true := isObject_unite hobjects.2
      have hordered : (unite (n + 1) left right).Ordered := ordered_unite (n + 1) hl hr
      refine (ordered_unite (n + 1) hordered hr).eq_of_get?_eq hordered
        ⟨isObject_unite hobjects.2, hunion⟩ fun key => ?_
      rw [get?_unite hr ⟨hunion, hobjects.2⟩, get?_unite hr hobjects]
      cases hleft : left.get? key with
      | none =>
        cases hright : right.get? key with
        | none => rfl
        | some b => exact congrArg some (unite_self n (hr.get? hright))
      | some a =>
        cases hright : right.get? key with
        | none => rfl
        | some b => exact congrArg some (ih (hl.get? hleft) (hr.get? hright))
    · rw [unite_of_not_isObject _ hobjects, unite_self _ hr]

/-- What a document has been united with is not changed when that document is put before it again. -/
theorem unite_unite_left (n : Nat) {left right : Json} (hl : left.Ordered) (hr : right.Ordered) :
    unite n left (unite n left right) = unite n left right := by
  induction n generalizing left right with
  | zero => exact unite_zero left _
  | succ n ih =>
    have hordered : (unite (n + 1) left right).Ordered := ordered_unite (n + 1) hl hr
    by_cases hobjects : left.isObject = true ∧ right.isObject = true
    · have hunion : (unite (n + 1) left right).isObject = true := isObject_unite hobjects.2
      refine (ordered_unite (n + 1) hl hordered).eq_of_get?_eq hordered
        ⟨isObject_unite hunion, hunion⟩ fun key => ?_
      rw [get?_unite hordered ⟨hobjects.1, hunion⟩, get?_unite hr hobjects]
      cases hleft : left.get? key with
      | none => cases right.get? key <;> rfl
      | some a =>
        cases hright : right.get? key with
        | none => exact congrArg some (unite_self n (hl.get? hleft))
        | some b => exact congrArg some (ih (hl.get? hleft) (hr.get? hright))
    · -- the union is the right document, and stays so
      rw [unite_of_not_isObject _ hobjects, unite_of_not_isObject _ hobjects]

/-- Uniting is idempotent, and a union absorbs both of the documents that it was made from. -/
theorem uniteSchemas_absorbs {left right : Json} (hl : left.Ordered) (hr : right.Ordered) :
    uniteSchemas left left = left ∧
      uniteSchemas (uniteSchemas left right) right = uniteSchemas left right ∧
      uniteSchemas left (uniteSchemas left right) = uniteSchemas left right :=
  ⟨unite_self schemaLevels hl, unite_unite_right schemaLevels hl hr,
    unite_unite_left schemaLevels hl hr⟩

theorem uniteSchemas_absorbs_titled :
    let united := uniteSchemas titledSchema addedSchema
    titledSchema.Ordered ∧ addedSchema.Ordered ∧
      uniteSchemas titledSchema titledSchema = titledSchema ∧
      uniteSchemas united addedSchema = united ∧ uniteSchemas titledSchema united = united := by
  have htitled : titledSchema.Ordered := by decide +kernel
  have hadded : addedSchema.Ordered := by decide +kernel
  exact ⟨htitled, hadded, uniteSchemas_absorbs htitled hadded⟩

theorem storable_object {depth : Nat} {members : Table Json} (hsorted : Table.Sorted members)
    (h : ∀ member ∈ members, Storable depth member.2) : Storable (depth + 1) (.object members) where
  nested member hm := (h member hm).nested
  integral := .object fun member hm => (h member hm).integral
  ordered := ⟨hsorted, orderedMembers_iff.mpr fun member hm => (h member hm).ordered⟩

theorem forall_uniteMembers {P : Json → Prop} {join : Json → Json → Json}
    (hjoin : ∀ a b, P a → P b → P (join a b)) {left right : Table Json}
    (hl : ∀ member ∈ left, P member.2) (hr : ∀ member ∈ right, P member.2) :
    ∀ member ∈ uniteMembers join left right, P member.2 := by
  induction right generalizing left with
  | nil => exact hl
  | cons pair right ih =>
    obtain ⟨key, value⟩ := pair
    obtain ⟨hvalue, hright⟩ := List.forall_mem_cons.mp hr
    rw [uniteMembers_cons]
    refine ih (fun member hm => ?_) hright
    rcases Table.mem_put hm with rfl | hm
    · cases hg : Table.get? left key with
      | none => exact hvalue
      | some existing => exact hjoin _ _ (hl _ (Table.mem_of_get? hg)) hvalue
    · exact hl member hm

theorem storable_unite (n : Nat) {depth : Nat} {left right : Json} (hl : Storable depth left)
    (hr : Storable depth right) : Storable depth (unite n left right) := by
  induction n generalizing depth left right with
  | zero => exact (unite_zero left right).symm ▸ hr
  | succ n ih =>
    by_cases hobjects : left.isObject = true ∧ right.isObject = true
    · have hordered := ordered_unite (n + 1) hl.ordered hr.ordered
      obtain ⟨lefts, rfl⟩ := eq_object_of_isObject hobjects.1
      obtain ⟨rights, rfl⟩ := eq_object_of_isObject hobjects.2
      cases depth with
      | zero => exact absurd hl.nested id
      | succ depth =>
        exact storable_object hordered.1
          (forall_uniteMembers (fun _ _ => ih) hl.members hr.members)
    · exact (unite_of_not_isObject _ hobjects).symm ▸ hr

end TraitSchema.Json
