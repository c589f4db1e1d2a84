import TraitSchema.Proofs.ReadDocuments
import TraitSchema.Proofs.ReadingSteps
import TraitSchema.Proofs.Scanning

namespace TraitSchema

namespace Path

/-- A name that an entry of a directory has and that leads to this entry. -/
structure IsEntryName (name : String) : Prop where
  no_slash : '/' ∉ name.toList
  not_idle : isIdle name.toList = false
  not_up : name ≠ ".."

theorem steps_of_toList_eq {path : String} (before after : String)
    (h : path.toList = before.toList ++ '/' :: after.toList) :
    steps path = steps before ++ steps after := by
  simp only [steps, segments, h, List.splitOn_append_cons_self, List.filter_append,
    List.map_append]

theorem IsEntryName.steps_eq {name : String} (h : IsEntryName name) : steps name = [name] := by
  rw [steps, segments, List.splitOn_eq_singleton h.no_slash]
  simp [h.not_idle]

theorem IsEntryName.steps_join {name : String} (h : IsEntryName name) (directory : String) :
    steps (join directory name) = steps directory ++ [name] := by
  unfold join
  split
  next hname => exact absurd (hname ▸ List.mem_cons_self) h.no_slash
  next =>
    split
    next hend =>
      rcases hend with rfl | hslash
      · rw [String.empty_append, h.steps_eq]
        rfl
      · -- the slash at the end of the directory stands before the name
        obtain ⟨front, hfront⟩ := List.getLast?_eq_some_iff.mp hslash
        have hdirectory : steps directory = steps (String.ofList front) ++ steps "" :=
          steps_of_toList_eq _ _ (by simp [hfront])
        rw [steps_of_toList_eq (String.ofList front) name (by simp [hfront]), h.steps_eq,
          hdirectory, show steps "" = [] from rfl, List.append_nil]
    next =>
      rw [steps_of_toList_eq directory name (by simp), h.steps_eq]

theorem IsEntryName.place_join {name : String} (h : IsEntryName name) (directory : String) :
    place (join directory name) = place directory ++ [name] := by
  rw [place, h.steps_join, placeFrom, List.foldl_append, List.foldl_cons, List.foldl_nil,
    if_neg h.not_up, List.reverse_cons, ← placeFrom, ← place]

end Path

namespace FileTree

/-- No name in the tree holds a slash. -/
def PlainNames (t : FileTree) : Prop := ∀ entry ∈ t.nodes, ∀ name ∈ entry.1, '/' ∉ name.toList

theorem PlainNames.no_slash_of_list {t : FileTree} (h : t.PlainNames) {path : String}
    {entries : Table Bool} (hl : t.list path = .ok entries) {entry : String × Bool}
    (he : entry ∈ entries) : '/' ∉ entry.1.toList := by
  obtain ⟨-, ⟨-, rfl⟩ | ⟨-, -, rfl⟩⟩ := list_eq_ok_iff.mp hl
  · obtain ⟨node, hnode, hchild⟩ := List.mem_filterMap.mp (Table.mem_of_mem_ofList he)
    unfold childIn? at hchild
    split at hchild
    next name above hplace =>
      split at hchild
      · cases hchild
        refine h node hnode name (List.mem_reverse.mp ?_)
        rw [hplace]
        exact List.mem_cons_self
      · cases hchild
    next => cases hchild
  · cases he

end FileTree

theorem AdminType.isEntryName_of_ofFileName? {name : String} {adminType : AdminType}
    (h : ofFileName? name = some adminType) (hslash : '/' ∉ name.toList) :
    Path.IsEntryName name := by
  unfold ofFileName? at h
  split at h
  · cases h
  next rest hrest =>
    have hname : name.toList = 'k' :: ("ey_map_".toList ++ rest) := Text.after?_eq_some_iff.mp hrest
    refine ⟨hslash, ?_, ?_⟩
    · rw [hname]
      rfl
    · rintro rfl
      cases hname

namespace Generation

/-- The key maps that are discovered have their places in the directory of key maps. -/
theorem exists_place_of_discover {config : Config} {w : World} {sources : List KeyMapSource}
    (hnames : w.files.PlainNames)
    (h : (endIn (discover config : Run InWorld (List KeyMapSource)) w).1 = .ok sources)
    {source : KeyMapSource} (hs : source ∈ sources) :
    ∃ name, Path.place source.path = Path.place config.keyMapDir ++ [name] := by
  obtain ⟨entries, hlist, rfl⟩ := discover_eq_ok_iff.mp h
  obtain ⟨entry, he, hsource⟩ := List.mem_filterMap.mp hs
  unfold keyMapSource? at hsource
  split at hsource
  · cases hsource
  · obtain ⟨adminType, hname, rfl⟩ := Option.map_eq_some_iff.mp hsource
    have hentry := AdminType.isEntryName_of_ofFileName? hname (hnames.no_slash_of_list hlist he)
    exact ⟨entry.1, hentry.place_join config.keyMapDir⟩

end Generation

end TraitSchema
