import Mathlib.Data.List.Basic
import TraitSchema.Files.Tree

namespace TraitSchema

namespace Path

/-- The place that is reached from a directory, whose own names are given in reverse. -/
def placeFrom (here names : List String) : List String :=
  (names.foldl (fun here name => if name = ".." then here.tail else name :: here) here).reverse

/-- The place that a path leads to where every name on the way is that of a directory. -/
def place (path : String) : List String := placeFrom [] (steps path)

end Path

namespace FileTree

/-- The bytes of the file at a place. -/
def file? (t : FileTree) (place : List String) : Option ByteArray :=
  match t.get? place with
  | some (.file content) => some content
  | _ => none

variable {t t' : FileTree}

theorem lookup_filter_of_ne {place other : List String} (h : other ≠ place)
    (nodes : List (List String × FileNode)) :
    (nodes.filter fun entry => entry.1 != place).lookup other = nodes.lookup other := by
  induction nodes with
  | nil => rfl
  | cons entry nodes ih =>
    obtain ⟨found, node⟩ := entry
    rw [List.filter_cons]
    by_cases hf : found = place
    · have hne : (other == place) = false := beq_eq_false_iff_ne.mpr h
      simp only [hf, bne_self_eq_false, Bool.false_eq_true, if_false, ih, List.lookup_cons, hne]
    · simp only [bne_iff_ne, ne_eq, hf, not_false_eq_true, if_true, List.lookup_cons, ih]

theorem get?_put (t : FileTree) {place : List String} (hp : place ≠ []) (node : FileNode)
    (other : List String) :
    (t.put place node).get? other = if other = place then some node else t.get? other := by
  by_cases ho : other = place
  · subst ho
    simp [get?, put, hp]
  · have hne : (other == place) = false := beq_eq_false_iff_ne.mpr ho
    simp [get?, put, List.lookup_cons, hne, lookup_filter_of_ne ho, ho]

theorem ne_nil_of_get? {place : List String} (h : ¬ t.get? place = some .directory) :
    place ≠ [] := by
  rintro rfl
  exact h rfl

theorem ne_nil_of_get?_eq_none {place : List String} (h : t.get? place = none) : place ≠ [] := by
  refine ne_nil_of_get? (t := t) ?_
  rw [h]
  exact Option.some_ne_none _ ∘ Eq.symm

theorem walk_eq_placeFrom {here names place : List String} (h : t.walk here names = .ok place) :
    place = Path.placeFrom here names := by
  fun_induction walk t here names with
  | case1 here => cases h; rfl
  | case2 here rest ih => exact ih h
  | case3 here name hne =>
    cases h
    rw [Path.placeFrom, List.foldl_cons, if_neg hne, List.foldl_nil]
  | case4 => cases h
  | case5 => cases h
  | case6 here name rest hne _ _ ih =>
    rw [ih h, Path.placeFrom, Path.placeFrom, List.foldl_cons, if_neg hne]

theorem resolve_eq_place {path : String} {place : List String} (h : t.resolve path = .ok place) :
    place = Path.place path := by
  rw [resolve] at h
  split at h
  · cases h
  · exact walk_eq_placeFrom h

theorem eq_put_of_write {path : String} {content : ByteArray}
    (h : t.write path content = .ok t') :
    ∃ place, t.resolve path = .ok place ∧ t.get? place ≠ some .directory ∧
      t' = t.put place (.file content) := by
  cases hr : t.resolve path with
  | error e => rw [write, hr] at h; cases h
  | ok place =>
    simp only [write, hr, bind, Except.bind] at h
    split at h
    · cases h
    next hd =>
      split at h
      · cases h
      · split at h
        · cases h
        · exact ⟨place, rfl, hd, (Except.ok.inj h).symm⟩

theorem eq_put_of_makeDirectory {names : List String} (h : t.makeDirectory names = .ok t') :
    ∃ place, t.get? place = none ∧ t' = t.put place .directory := by
  cases hw : t.walk [] names with
  | error e => rw [makeDirectory, hw] at h; cases h
  | ok place =>
    simp only [makeDirectory, hw, bind, Except.bind] at h
    split at h
    · cases h
    next hg => exact ⟨place, hg, (Except.ok.inj h).symm⟩

/-- Writing to a path changes no file but the one at its place. -/
theorem file?_write {path : String} {content : ByteArray} (h : t.write path content = .ok t')
    {place : List String} (hp : place ≠ Path.place path) : t'.file? place = t.file? place := by
  obtain ⟨found, hr, hd, rfl⟩ := eq_put_of_write h
  rw [file?, file?, get?_put t (ne_nil_of_get? hd), if_neg (resolve_eq_place hr ▸ hp)]

theorem file?_makeDirectory {names : List String} (h : t.makeDirectory names = .ok t')
    (place : List String) : t'.file? place = t.file? place := by
  obtain ⟨found, hg, rfl⟩ := eq_put_of_makeDirectory h
  have hne : found ≠ [] := ne_nil_of_get?_eq_none hg
  by_cases hp : place = found
  · rw [file?, get?_put t hne, if_pos hp, file?, hp, hg]
  · rw [file?, file?, get?_put t hne, if_neg hp]

theorem file?_makeDirectories (t : FileTree) (names place : List String) :
    (t.makeDirectories names).1.file? place = t.file? place := by
  fun_induction makeDirectories t names with
  | case1 => rfl
  | case2 name above steps t' hd => exact file?_makeDirectory hd place
  | case3 name above steps hd t' e hm ih => simpa [hm] using ih
  | case4 name above steps hd t' hm t'' hd' ih =>
    rw [hm] at ih
    exact (file?_makeDirectory hd' place).trans ih
  | case5 name above steps hd t' hm e hd' ih =>
    rw [hm] at ih
    exact ih
  | case6 name above steps e hne hd => rfl

end FileTree

end TraitSchema
