import TraitSchema.Conformance.Definitions
import TraitSchema.Proofs.Scanning

namespace TraitSchema

/-- The name looks like that of a definition of traits. -/
def IsGeneratedName (name : String) : Prop :=
  ∃ lead ending, lead ≠ "" ∧
    ending ∈ ["AddOnlyTraits", "AlterOnlyTraits", "CommonTraits", "ExtractOnlyTraits"] ∧
    name = lead ++ ending

theorem Bucket.mem_all (b : Bucket) : b ∈ Bucket.all := by
  cases b <;> decide

theorem Bucket.exists_suffix?_iff {ending : String} :
    (∃ b : Bucket, b.suffix? = some ending) ↔
      ending ∈ ["AddOnlyTraits", "AlterOnlyTraits", "CommonTraits", "ExtractOnlyTraits"] := by
  simp only [List.mem_cons, List.not_mem_nil, or_false]
  constructor
  · rintro ⟨b, hb⟩
    cases b <;> simp_all [Bucket.suffix?]
  · rintro (rfl | rfl | rfl | rfl)
    · exact ⟨.addOnly, rfl⟩
    · exact ⟨.alterOnly, rfl⟩
    · exact ⟨.common, rfl⟩
    · exact ⟨.extractOnly, rfl⟩

/-- No ending of one bucket is an ending of that of another. -/
theorem Bucket.suffix?_unique {b c : Bucket} {lead lead' ending ending' : String}
    (hb : b.suffix? = some ending) (hc : c.suffix? = some ending')
    (he : lead ++ ending = lead' ++ ending') : b = c ∧ lead = lead' := by
  have hl : ending.toList.reverse ++ lead.toList.reverse =
      ending'.toList.reverse ++ lead'.toList.reverse := by
    rw [← List.reverse_append, ← List.reverse_append, ← String.toList_append,
      ← String.toList_append, he]
  -- Endings of different buckets differ at a letter that both have, so no lead makes up for it.
  have hbc : b = c := by
    cases b <;> cases hb <;> cases c <;> cases hc <;> first | rfl | simp at hl
  subst hbc
  cases Option.some.inj (hb.symm.trans hc)
  rw [List.append_cancel_left_eq, List.reverse_inj, String.toList_inj] at hl
  exact ⟨rfl, hl⟩

namespace Text

theorem withoutEnding?_eq_some_iff {ending text lead : List Char} :
    withoutEnding? ending text = some lead ↔ text = lead ++ ending := by
  rw [withoutEnding?, Option.map_eq_some_iff]
  constructor
  · rintro ⟨rest, hr, rfl⟩
    rw [after?_eq_some_iff] at hr
    rw [← List.reverse_reverse text, hr]
    simp
  · rintro rfl
    refine ⟨lead.reverse, ?_, List.reverse_reverse lead⟩
    rw [after?_eq_some_iff, List.reverse_append]

end Text

namespace Conformance.TraitDefinition

theorem split?_eq_some_iff {name owner : String} {b : Bucket} :
    split? name b = some owner ↔
      owner ≠ "" ∧ ∃ ending, b.suffix? = some ending ∧ name = owner ++ ending := by
  rw [split?, Option.bind_eq_some_iff]
  constructor
  · rintro ⟨ending, hb, h⟩
    split at h
    next c lead hl =>
      cases Option.some.inj h
      rw [Text.withoutEnding?_eq_some_iff] at hl
      refine ⟨?_, ending, hb, ?_⟩
      · rw [ne_eq, ← String.toList_inj, String.toList_ofList]
        exact List.cons_ne_nil c lead
      · rw [← String.toList_inj, hl, String.toList_append, String.toList_ofList]
    next => cases h
  · rintro ⟨ho, ending, hb, rfl⟩
    refine ⟨ending, hb, ?_⟩
    have hl : Text.withoutEnding? ending.toList (owner ++ ending).toList = some owner.toList := by
      rw [Text.withoutEnding?_eq_some_iff, String.toList_append]
    rw [hl]
    cases hc : owner.toList with
    | nil => exact absurd (String.toList_inj.mp hc) ho
    | cons c lead => exact congrArg some (by rw [← hc, String.ofList_toList])

/-- A name can be taken apart for one bucket at most. -/
theorem split?_unique {name owner owner' : String} {b c : Bucket}
    (hb : split? name b = some owner) (hc : split? name c = some owner') :
    b = c ∧ owner = owner' := by
  obtain ⟨-, ending, hending, hname⟩ := split?_eq_some_iff.mp hb
  obtain ⟨-, ending', hending', hname'⟩ := split?_eq_some_iff.mp hc
  exact Bucket.suffix?_unique hending hending' (hname.symm.trans hname')

theorem ofMember?_eq_some_iff {name : String} {body : Json} {d : TraitDefinition} :
    ofMember? name body = some d ↔
      split? name d.bucket = some d.owner ∧ d.name = name ∧ d.body = body := by
  constructor
  · intro h
    obtain ⟨b, -, hb⟩ := List.exists_of_findSome?_eq_some h
    obtain ⟨owner, ho, rfl⟩ := Option.map_eq_some_iff.mp hb
    exact ⟨ho, rfl, rfl⟩
  · rintro ⟨hs, rfl, rfl⟩
    cases hm : ofMember? d.name d.body with
    | none =>
      have hnone := List.findSome?_eq_none_iff.mp hm d.bucket (Bucket.mem_all _)
      simp [hs] at hnone
    | some found =>
      obtain ⟨b, -, hfound⟩ := List.exists_of_findSome?_eq_some hm
      obtain ⟨owner, howner, rfl⟩ := Option.map_eq_some_iff.mp hfound
      obtain ⟨rfl, rfl⟩ := split?_unique howner hs
      rfl

theorem ofMember?_append {owner ending : String} {b : Bucket} (body : Json) (ho : owner ≠ "")
    (hb : b.suffix? = some ending) :
    ofMember? (owner ++ ending) body = some ⟨owner ++ ending, owner, b, body⟩ :=
  ofMember?_eq_some_iff.mpr ⟨split?_eq_some_iff.mpr ⟨ho, ending, hb, rfl⟩, rfl, rfl⟩

theorem ofMember?_eq_none {name : String} (body : Json) (h : ¬ IsGeneratedName name) :
    ofMember? name body = none := by
  apply Option.eq_none_iff_forall_ne_some.mpr
  intro d hd
  obtain ⟨hs, -, -⟩ := ofMember?_eq_some_iff.mp hd
  obtain ⟨ho, ending, hb, hn⟩ := split?_eq_some_iff.mp hs
  exact h ⟨d.owner, ending, ho, Bucket.exists_suffix?_iff.mp ⟨d.bucket, hb⟩, hn⟩

end Conformance.TraitDefinition

/-- The shared definitions are none of traits. -/
theorem SharedType.not_isGeneratedName (type : SharedType) : ¬ IsGeneratedName type.name := by
  rintro ⟨lead, ending, -, he, hn⟩
  have hl := congrArg (fun s => s.toList.reverse) hn
  simp only [String.toList_append, List.reverse_append] at hl
  simp only [List.mem_cons, List.not_mem_nil, or_false] at he
  rcases he with rfl | rfl | rfl | rfl <;> cases type <;> simp [name] at hl

end TraitSchema
