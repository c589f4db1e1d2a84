import Mathlib.Data.List.Induction
import TraitSchema.Fragment
import TraitSchema.Proofs.TableContents

namespace TraitSchema

theorem eraseDups_concat {α : Type} [BEq α] [LawfulBEq α] (xs : List α) (x : α) :
    (xs ++ [x]).eraseDups = xs.eraseDups ++ if x ∈ xs then [] else [x] := by
  rw [List.eraseDups_append]
  by_cases h : x ∈ xs <;> simp [List.removeAll, h, List.eraseDups_cons]

namespace Fragment

/-- The names of the traits in the order in which they came. -/
def names (f : Fragment) : List String := f.placements.map (·.name)

theorem find?_eq_none_iff {f : Fragment} {name : String} :
    f.find? name = none ↔ name ∉ f.names := by
  refine ⟨find?_eq_none, fun h => ?_⟩
  apply List.find?_eq_none.mpr
  intro p hp he
  exact h (List.mem_map.mpr ⟨p, hp, by simpa using he⟩)

theorem name_of_find? {f : Fragment} {name : String} {p : Placement}
    (h : f.find? name = some p) : p.name = name := by
  simpa using List.find?_some h

theorem find?_of_mem {f : Fragment} {p : Placement} (h : p ∈ f.placements) :
    f.find? p.name = some p := by
  cases hf : f.find? p.name with
  | none => exact absurd (List.mem_map.mpr ⟨p, h, rfl⟩) (find?_eq_none_iff.mp hf)
  | some first =>
    have hm := List.mem_of_find?_eq_some hf
    exact congrArg some
      (List.inj_on_of_nodup_map f.names_nodup hm h (name_of_find? hf))

theorem insert_of_taken {f : Fragment} {p first : Placement} (h : f.find? p.name = some first) :
    f.insert p = (f, if first = p then .duplicate else .conflict first.bucket) := by
  unfold insert
  split
  next found hf => cases Option.some.inj (hf.symm.trans h); rfl
  next hf => simp [hf] at h

theorem insert_of_new {f : Fragment} {p : Placement} (h : f.find? p.name = none) :
    (f.insert p).1.adminType = f.adminType ∧
      (f.insert p).1.placements = f.placements ++ [p] ∧ (f.insert p).2 = .inserted := by
  unfold insert
  split
  next first hf => simp [hf] at h
  next => exact ⟨rfl, rfl, rfl⟩

theorem mem_insert {f : Fragment} {p q : Placement} (h : q ∈ (f.insert p).1.placements) :
    q = p ∨ q ∈ f.placements := by
  cases hf : f.find? p.name with
  | none =>
    rw [(insert_of_new hf).2.1] at h
    rcases List.mem_append.mp h with h | h
    · exact .inr h
    · exact .inl (List.mem_singleton.mp h)
  | some first =>
    rw [insert_of_taken hf] at h
    exact .inr h

theorem names_insert (f : Fragment) (p : Placement) :
    (f.insert p).1.names = f.names ++ if p.name ∈ f.names then [] else [p.name] := by
  cases h : f.find? p.name with
  | none => simp [names, (insert_of_new h).2.1, find?_eq_none h]
  | some first =>
    have hm : p.name ∈ f.names := by
      by_contra hn
      simp [find?_eq_none_iff.mpr hn] at h
    simp [insert_of_taken h, hm]

theorem find?_insert (f : Fragment) (p : Placement) (name : String) :
    (f.insert p).1.find? name =
      (f.find? name).or (if p.name = name then some p else none) := by
  cases h : f.find? p.name with
  | none =>
    rw [find?, (insert_of_new h).2.1, List.find?_append]
    congr 1
    by_cases he : p.name = name <;> simp [he]
  | some first =>
    rw [insert_of_taken h]
    by_cases he : p.name = name
    · subst he
      simp [h]
    · simp [he]

/-- The fragment after one insertion after the other. -/
def insertAll (f : Fragment) (ps : List Placement) : Fragment :=
  ps.foldl (fun f p => (f.insert p).1) f

theorem insertAll_concat (f : Fragment) (ps : List Placement) (p : Placement) :
    f.insertAll (ps ++ [p]) = ((f.insertAll ps).insert p).1 := by
  simp [insertAll]

theorem adminType_insertAll (f : Fragment) (ps : List Placement) :
    (f.insertAll ps).adminType = f.adminType := by
  induction ps generalizing f with
  | nil => rfl
  | cons p ps ih =>
    refine (ih (f.insert p).1).trans ?_
    cases h : f.find? p.name with
    | none => exact (insert_of_new h).1
    | some first => rw [insert_of_taken h]

theorem mem_insertAll {f : Fragment} {ps : List Placement} {q : Placement}
    (h : q ∈ (f.insertAll ps).placements) : q ∈ f.placements ∨ q ∈ ps := by
  induction ps generalizing f with
  | nil => exact .inl h
  | cons p ps ih =>
    rcases ih h with hq | hq
    · rcases mem_insert hq with rfl | hq
      · exact .inr List.mem_cons_self
      · exact .inl hq
    · exact .inr (List.mem_cons_of_mem _ hq)

theorem find?_insertAll (f : Fragment) (ps : List Placement) (name : String) :
    (f.insertAll ps).find? name = (f.find? name).or (ps.find? fun p => p.name == name) := by
  induction ps generalizing f with
  | nil => simp [insertAll]
  | cons p ps ih =>
    rw [insertAll, List.foldl_cons, ← insertAll, ih, find?_insert, Option.or_assoc]
    congr 1
    by_cases he : p.name = name <;> simp [he]

/-- Each name holds its first placement. -/
theorem find?_insertAll_empty (t : AdminType) (ps : List Placement) (name : String) :
    ((empty t).insertAll ps).find? name = ps.find? fun p => p.name == name := by
  rw [find?_insertAll]
  rfl

theorem names_insertAll_empty (t : AdminType) (ps : List Placement) :
    ((empty t).insertAll ps).names = (ps.map (·.name)).eraseDups := by
  induction ps using List.reverseRecOn with
  | nil => rfl
  | append_singleton ps p ih =>
    rw [insertAll_concat, names_insert, ih, List.map_append, List.map_singleton, eraseDups_concat]
    simp only [List.mem_eraseDups]

theorem traitCount_eq (f : Fragment) : f.traitCount = f.names.length :=
  (List.length_map _).symm

theorem unresolved_eq (f : Fragment) :
    f.unresolved =
      f.names.filter fun name => (f.find? name).any fun p => p.entry.type.isNone := by
  rw [unresolved, names, List.filter_map]
  congr 1
  apply List.filter_congr
  intro p hp
  simp [find?_of_mem hp]

theorem mem_unresolved_iff {f : Fragment} {name : String} :
    name ∈ f.unresolved ↔ ∃ p, f.find? name = some p ∧ p.entry.type = none := by
  rw [unresolved_eq, List.mem_filter]
  constructor
  · rintro ⟨-, h⟩
    obtain ⟨p, hp, htype⟩ := (Option.any_eq_true _ _).mp h
    exact ⟨p, hp, by simpa using htype⟩
  · rintro ⟨p, hp, htype⟩
    refine ⟨?_, by simp [hp, htype]⟩
    by_contra hn
    simp [find?_eq_none_iff.mpr hn] at hp

theorem names_placed_nodup (f : Fragment) (b : Bucket) :
    (Table.names ((f.placements.filter fun p => p.bucket = b).map
      fun p => (p.name, p.entry))).Nodup := by
  rw [Table.names, List.map_map]
  exact f.names_nodup.sublist (List.filter_sublist.map _)

/-- A bucket holds exactly the entries that are placed in it. -/
theorem get?_bucket (f : Fragment) (b : Bucket) (name : String) :
    (f.bucket b).get? name =
      ((f.find? name).filter fun p => p.bucket = b).map (·.entry) := by
  have hn := f.names_placed_nodup b
  apply Option.ext
  intro entry
  rw [bucket, Table.get?_ofList_of_nodup hn, Table.get?_eq_some_iff hn]
  simp only [List.mem_map, List.mem_filter, Prod.mk.injEq, Option.map_eq_some_iff,
    Option.filter_eq_some_iff, decide_eq_true_eq]
  constructor
  · rintro ⟨p, ⟨hp, hb⟩, rfl, rfl⟩
    exact ⟨p, ⟨find?_of_mem hp, hb⟩, rfl⟩
  · rintro ⟨p, ⟨hp, hb⟩, rfl⟩
    exact ⟨p, ⟨List.mem_of_find?_eq_some hp, hb⟩, name_of_find? hp, rfl⟩

theorem bucket_eq_of_find?_eq {f g : Fragment} (h : ∀ name, f.find? name = g.find? name)
    (b : Bucket) : f.bucket b = g.bucket b := by
  refine Table.eq_of_get?_eq (Table.sorted_ofList _) (Table.sorted_ofList _) fun name => ?_
  exact (f.get?_bucket b name).trans (h name ▸ (g.get?_bucket b name).symm)

end Fragment

end TraitSchema
