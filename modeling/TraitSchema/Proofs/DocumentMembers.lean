import TraitSchema.Json.Basic
import TraitSchema.Proofs.TableContents

namespace TraitSchema.Json

theorem eq_object_of_isObject {value : Json} (h : value.isObject = true) :
    ∃ members, value = .object members := by
  cases value with
  | object members => exact ⟨members, rfl⟩
  | _ => cases h

theorem get?_eq_none_of_not_isObject {value : Json} (h : value.isObject = false) (key : String) :
    value.get? key = none := by
  cases value with
  | object members => cases h
  | _ => rfl

theorem isObject_of_get? {value member : Json} {key : String} (h : value.get? key = some member) :
    value.isObject = true := by
  by_contra hno
  simp [get?_eq_none_of_not_isObject (Bool.not_eq_true _ ▸ hno)] at h

theorem members?_eq_some_iff {value : Json} {members : Table Json} :
    value.members? = some members ↔ value = .object members := by
  cases value with
  | object found => simp [members?]
  | _ => simp [members?]

theorem text?_eq_some_iff {value : Json} {s : String} :
    value.text? = some s ↔ value = .string s := by
  cases value with
  | string found => simp [text?]
  | _ => simp [text?]

theorem orderedMembers_iff {members : Table Json} :
    OrderedMembers members ↔ ∀ pair ∈ members, pair.2.Ordered := by
  induction members with
  | nil => exact iff_of_true trivial fun _ h => nomatch h
  | cons pair members ih =>
    rw [List.forall_mem_cons, ← ih]
    exact Iff.rfl

theorem ordered_singleton {key : String} {value : Json} (h : value.Ordered) :
    (Json.object [(key, value)]).Ordered :=
  ⟨List.pairwise_singleton _ _, h, trivial⟩

theorem Ordered.get? {value member : Json} {key : String} (h : value.Ordered)
    (hg : value.get? key = some member) : member.Ordered := by
  obtain ⟨members, rfl⟩ := eq_object_of_isObject (isObject_of_get? hg)
  exact orderedMembers_iff.mp h.2 _ (Table.mem_of_get? hg)

mutual

/-- Whether the members of every object stand in the order of their keys. -/
def decideOrdered : (value : Json) → Decidable value.Ordered
  | .array items => decideOrderedItems items
  | .object members =>
    haveI := decideOrderedMembers members
    inferInstanceAs (Decidable (members.Pairwise (fun a b => a.1 < b.1) ∧ OrderedMembers members))
  | .null | .bool _ | .number _ | .string _ => isTrue trivial

def decideOrderedItems : (items : List Json) → Decidable (OrderedItems items)
  | [] => isTrue trivial
  | item :: items =>
    haveI := decideOrdered item
    haveI := decideOrderedItems items
    inferInstanceAs (Decidable (item.Ordered ∧ OrderedItems items))

def decideOrderedMembers : (members : List (String × Json)) → Decidable (OrderedMembers members)
  | [] => isTrue trivial
  | (_, value) :: members =>
    haveI := decideOrdered value
    haveI := decideOrderedMembers members
    inferInstanceAs (Decidable (value.Ordered ∧ OrderedMembers members))

end

instance (value : Json) : Decidable value.Ordered := decideOrdered value

end TraitSchema.Json
