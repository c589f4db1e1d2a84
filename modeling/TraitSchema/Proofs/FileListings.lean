import TraitSchema.Proofs.FileGrowth

namespace TraitSchema

theorem Table.filter_ofList_cons_false (name : String) (pairs : List (String × Bool)) :
    (Table.ofList ((name, false) :: pairs)).filter (·.2) = (Table.ofList pairs).filter (·.2) := by
  refine Table.eq_of_mem_iff (List.Pairwise.filter _ (Table.sorted_ofList _))
    (List.Pairwise.filter _ (Table.sorted_ofList _)) ?_
  rintro ⟨child, b⟩
  rw [List.mem_filter, List.mem_filter]
  refine and_congr_left fun hb => ?_
  have hb : b = true := hb
  rw [← Table.get?_eq_some_iff (Table.names_nodup (Table.sorted_ofList _)),
    ← Table.get?_eq_some_iff (Table.names_nodup (Table.sorted_ofList _)), Table.get?_ofList,
    Table.get?_ofList, List.reverse_cons, Table.get?_append]
  cases Table.get? pairs.reverse child with
  | none => simp [Table.get?, hb]
  | some found => simp

namespace FileTree

variable {places : Set (List String)} {t u : FileTree} {path : String}

/-- What an entry of a tree adds to the listing of a directory. -/
def childIn? (directory : List String) (entry : List String × FileNode) : Option (String × Bool) :=
  match entry.1.reverse with
  | name :: above => if above.reverse = directory then some (name, entry.2.isFile) else none
  | [] => none

/-- The names in a directory and whether each is that of a file. -/
def children (t : FileTree) (directory : List String) : Table Bool :=
  Table.ofList (t.nodes.filterMap (childIn? directory))

def filesIn (t : FileTree) (directory : List String) : Table Bool :=
  (t.children directory).filter (·.2)

theorem childIn?_concat (directory : List String) (name : String) (node : FileNode) :
    childIn? directory (directory ++ [name], node) = some (name, node.isFile) := by
  simp [childIn?]

theorem childIn?_eq_none {directory place : List String}
    (h : ∀ name, place ≠ directory ++ [name]) (node : FileNode) :
    childIn? directory (place, node) = none := by
  unfold childIn?
  split
  next name above he =>
    refine if_neg fun habove => h name ?_
    rw [← habove, ← List.reverse_cons, ← he, List.reverse_reverse]
  next => rfl

theorem filterMap_childIn?_filter_ne {directory place : List String}
    (h : ∀ name, place ≠ directory ++ [name]) (nodes : List (List String × FileNode)) :
    (nodes.filter fun entry => entry.1 != place).filterMap (childIn? directory) =
      nodes.filterMap (childIn? directory) := by
  rw [List.filterMap_filter]
  refine List.filterMap_congr fun entry _ => ?_
  split
  · rfl
  next he =>
    obtain ⟨found, node⟩ := entry
    have hfound : found = place := by simpa using he
    rw [hfound, childIn?_eq_none h]

/-- What is put elsewhere changes no listing. -/
theorem children_put_elsewhere {directory place : List String}
    (h : ∀ name, place ≠ directory ++ [name]) (node : FileNode) :
    (t.put place node).children directory = t.children directory := by
  rw [children, put, List.filterMap_cons_none (childIn?_eq_none h node),
    filterMap_childIn?_filter_ne h, ← children]

theorem filter_ne_of_get?_eq_none {place : List String} (h : t.get? place = none) :
    (t.nodes.filter fun entry => entry.1 != place) = t.nodes := by
  have hne : place ≠ [] := ne_nil_of_get?_eq_none h
  rw [get?, if_neg hne, List.lookup_eq_none_iff] at h
  refine List.filter_eq_self.mpr fun entry hm => bne_iff_ne.mpr ?_
  exact (bne_iff_ne.mp (h entry hm)).symm

theorem filesIn_put_directory {directory place : List String} (h : t.get? place = none) :
    (t.put place .directory).filesIn directory = t.filesIn directory := by
  by_cases hchild : ∃ name, place = directory ++ [name]
  · obtain ⟨name, rfl⟩ := hchild
    rw [filesIn, children, put, filter_ne_of_get?_eq_none h,
      List.filterMap_cons_some (childIn?_concat directory name .directory)]
    exact Table.filter_ofList_cons_false name _
  · have helse : ∀ name, place ≠ directory ++ [name] := fun name he => hchild ⟨name, he⟩
    rw [filesIn, children_put_elsewhere helse, ← filesIn]

theorem Grows.filesIn_eq (h : Grows places t u) {directory : List String}
    (hplaces : ∀ place ∈ places, ∀ name, place ≠ directory ++ [name]) :
    u.filesIn directory = t.filesIn directory := by
  induction h with
  | refl => rfl
  | file content _ hp _ ih => rw [filesIn, children_put_elsewhere (hplaces _ hp), ← filesIn, ih]
  | directory _ hnew ih => rw [filesIn_put_directory hnew, ih]

theorem list_eq_ok_iff {entries : Table Bool} :
    t.list path = .ok entries ↔
      t.resolve path = .ok (Path.place path) ∧
        (t.get? (Path.place path) = some .directory ∧ entries = t.children (Path.place path) ∨
          (t.file? (Path.place path)).isSome = true ∧ Path.namesDirectory path = false ∧
            entries = []) := by
  cases hr : t.resolve path with
  | error e => simp [FileTree.list, find, hr, bind, Except.bind]
  | ok place =>
    cases resolve_eq_place hr
    cases hg : t.get? (Path.place path) with
    | none => simp [FileTree.list, find, file?, hr, hg, bind, Except.bind]
    | some node =>
      cases node with
      | directory =>
        have hlist : t.list path = .ok (t.children (Path.place path)) := by
          simp only [FileTree.list, find, hr, hg, bind, Except.bind]
          rfl
        have hfile : t.file? (Path.place path) = none := by rw [file?, hg]
        rw [hlist, hfile, Except.ok.injEq]
        simp only [true_and, Option.isSome_none, Bool.false_eq_true, false_and, or_false]
        exact eq_comm
      | file content =>
        cases hn : Path.namesDirectory path <;>
          simp [FileTree.list, find, file?, hr, hg, hn, bind, Except.bind, eq_comm]

/-- The files that a listing shows stay where none is written into the directory. -/
theorem Grows.list (h : Grows places t u)
    (hplaces : ∀ place ∈ places, ∀ name, place ≠ Path.place path ++ [name])
    {entries : Table Bool} (hl : t.list path = .ok entries) :
    ∃ entries', u.list path = .ok entries' ∧ entries'.filter (·.2) = entries.filter (·.2) := by
  obtain ⟨hr, ⟨hd, rfl⟩ | ⟨hf, hname, rfl⟩⟩ := list_eq_ok_iff.mp hl
  · refine ⟨u.children (Path.place path),
      list_eq_ok_iff.mpr ⟨h.resolve hr, .inl ⟨h.get?_directory hd, rfl⟩⟩, ?_⟩
    exact h.filesIn_eq hplaces
  · exact ⟨[], list_eq_ok_iff.mpr ⟨h.resolve hr, .inr ⟨h.isSome_file? hf, hname, rfl⟩⟩, rfl⟩

end FileTree

end TraitSchema
