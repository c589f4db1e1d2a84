import Mathlib.Data.Set.Basic
import TraitSchema.Proofs.FileChanges
import TraitSchema.Proofs.TableContents

namespace TraitSchema.FileTree

/-- One tree comes from the other by writing files at the given places and by making directories
where nothing was. -/
inductive Grows (places : Set (List String)) : FileTree → FileTree → Prop where
  | refl (t : FileTree) : Grows places t t
  | file {t u : FileTree} {place : List String} (content : ByteArray) (h : Grows places t u)
      (hp : place ∈ places) (hfree : u.get? place ≠ some .directory) :
      Grows places t (u.put place (.file content))
  | directory {t u : FileTree} {place : List String} (h : Grows places t u)
      (hnew : u.get? place = none) : Grows places t (u.put place .directory)

variable {places more : Set (List String)} {t u v : FileTree} {path : String}

theorem Grows.trans (h : Grows places t u) (hu : Grows places u v) : Grows places t v := by
  induction hu with
  | refl => exact h
  | file content _ hp hfree ih => exact ih.file content hp hfree
  | directory _ hnew ih => exact ih.directory hnew

theorem Grows.mono (h : Grows places t u) (hp : places ⊆ more) : Grows more t u := by
  induction h with
  | refl => exact .refl _
  | file content _ hplace hfree ih => exact ih.file content (hp hplace) hfree
  | directory _ hnew ih => exact ih.directory hnew

/-- A file stays a file and a directory a directory. -/
theorem Grows.isFile (h : Grows places t u) {place : List String} {b : Bool}
    (hb : (t.get? place).map FileNode.isFile = some b) :
    (u.get? place).map FileNode.isFile = some b := by
  induction h with
  | refl => exact hb
  | @file u written content _ _ hfree ih =>
    rw [get?_put u (ne_nil_of_get? hfree)]
    split
    next he =>
      subst he
      cases hg : u.get? place with
      | none => rw [hg] at ih; cases ih
      | some node =>
        cases node with
        | file => rw [hg] at ih; exact ih
        | directory => exact absurd hg hfree
    next => exact ih
  | @directory u made _ hnew ih =>
    rw [get?_put u (ne_nil_of_get?_eq_none hnew)]
    split
    next he =>
      subst he
      rw [hnew] at ih
      cases ih
    next => exact ih

theorem Grows.get?_directory (h : Grows places t u) {place : List String}
    (hd : t.get? place = some .directory) : u.get? place = some .directory := by
  have hkind := h.isFile (b := false) (by rw [hd]; rfl)
  cases hg : u.get? place with
  | none => rw [hg] at hkind; cases hkind
  | some node =>
    cases node with
    | file => rw [hg] at hkind; cases hkind
    | directory => rfl

theorem isSome_file?_iff {place : List String} :
    (t.file? place).isSome = true ↔ (t.get? place).map FileNode.isFile = some true := by
  rw [file?]
  cases t.get? place with
  | none => simp
  | some node => cases node <;> simp [FileNode.isFile]

theorem Grows.isSome_file? (h : Grows places t u) {place : List String}
    (hf : (t.file? place).isSome = true) : (u.file? place).isSome = true :=
  isSome_file?_iff.mpr (h.isFile (isSome_file?_iff.mp hf))

/-- The files at other places stay as they are. -/
theorem Grows.file?_eq (h : Grows places t u) {place : List String} (hp : place ∉ places) :
    u.file? place = t.file? place := by
  induction h with
  | refl => rfl
  | @file u written content _ hw hfree ih =>
    have hne : place ≠ written := fun he => hp (he ▸ hw)
    rw [file?, get?_put u (ne_nil_of_get? hfree), if_neg hne, ← file?, ih]
  | @directory u made _ hnew ih =>
    have hmade : made ≠ [] := ne_nil_of_get?_eq_none hnew
    by_cases he : place = made
    · rw [file?, get?_put u hmade, if_pos he, ← ih, file?, he, hnew]
    · rw [file?, get?_put u hmade, if_neg he, ← file?, ih]

/-- What led to a place leads to it still. -/
theorem Grows.walk (h : Grows places t u) {here names place : List String}
    (hw : t.walk here names = .ok place) : u.walk here names = .ok place := by
  fun_induction FileTree.walk t here names with
  | case1 here => exact hw
  | case2 here rest ih =>
    rw [FileTree.walk]
    exact ih hw
  | case3 here name hne =>
    rw [FileTree.walk]
    · exact hw
    · exact hne
  | case4 => cases hw
  | case5 => cases hw
  | case6 here name rest hne hrest hd ih =>
    rw [FileTree.walk, h.get?_directory hd]
    · exact ih hw
    · exact hne
    · exact hrest

theorem Grows.resolve (h : Grows places t u) {place : List String}
    (hr : t.resolve path = .ok place) : u.resolve path = .ok place := by
  unfold FileTree.resolve at hr ⊢
  split at hr
  · cases hr
  next hne => rw [if_neg hne, h.walk hr]

theorem isDirectory_iff {names : List String} :
    t.isDirectory names = true ↔
      ∃ place, t.walk [] names = .ok place ∧ t.get? place = some .directory := by
  cases hw : t.walk [] names with
  | error e => simp [FileTree.isDirectory, hw]
  | ok place =>
    cases hg : t.get? place with
    | none => simp [FileTree.isDirectory, hw, hg]
    | some node => cases node <;> simp [FileTree.isDirectory, FileNode.isFile, hw, hg]

theorem Grows.isDirectory (h : Grows places t u) {names : List String}
    (hd : t.isDirectory names = true) : u.isDirectory names = true := by
  obtain ⟨place, hw, hg⟩ := isDirectory_iff.mp hd
  exact isDirectory_iff.mpr ⟨place, h.walk hw, h.get?_directory hg⟩

theorem readText_eq_ok_iff {text : String} :
    t.readText path = .ok text ↔
      t.resolve path = .ok (Path.place path) ∧ Path.namesDirectory path = false ∧
        (t.file? (Path.place path)).bind String.fromUTF8? = some text := by
  cases hr : t.resolve path with
  | error e => simp [readText, find, hr, bind, Except.bind]
  | ok place =>
    cases resolve_eq_place hr
    cases hg : t.get? (Path.place path) with
    | none => simp [readText, find, file?, hr, hg, bind, Except.bind]
    | some node =>
      cases node with
      | directory => simp [readText, find, file?, hr, hg, bind, Except.bind]
      | file content =>
        cases hn : Path.namesDirectory path with
        | true => simp [readText, find, file?, hr, hg, hn, bind, Except.bind]
        | false =>
          cases htext : String.fromUTF8? content <;>
            simp [readText, find, file?, hr, hg, hn, htext, bind, Except.bind]

theorem Grows.readText (h : Grows places t u) {text : String} (hr : t.readText path = .ok text)
    (hsame : u.file? (Path.place path) = t.file? (Path.place path)) :
    u.readText path = .ok text := by
  obtain ⟨hresolve, hname, htext⟩ := readText_eq_ok_iff.mp hr
  exact readText_eq_ok_iff.mpr ⟨h.resolve hresolve, hname, hsame ▸ htext⟩

/-- The path is one that a file can be written to. -/
structure Writable (t : FileTree) (path : String) : Prop where
  resolve : t.resolve path = .ok (Path.place path)
  free : t.get? (Path.place path) ≠ some .directory
  endsInDot : Path.endsInDot path = false
  namesDirectory : Path.namesDirectory path = false

theorem Writable.write (h : Writable t path) (content : ByteArray) :
    t.write path content = .ok (t.put (Path.place path) (.file content)) := by
  rw [FileTree.write, h.resolve]
  cases hg : t.get? (Path.place path) with
  | none => simp [hg, h.endsInDot, h.namesDirectory, bind, Except.bind]
  | some node =>
    cases node with
    | directory => exact absurd hg h.free
    | file => simp [hg, h.endsInDot, h.namesDirectory, bind, Except.bind]

theorem writable_of_write {content : ByteArray} (h : t.write path content = .ok u) :
    Writable t path := by
  obtain ⟨place, hr, hfree, -⟩ := eq_put_of_write h
  cases resolve_eq_place hr
  simp only [FileTree.write, hr, bind, Except.bind] at h
  split at h
  · cases h
  next hdot =>
    split at h
    · cases h
    next hname => exact ⟨hr, hfree, Bool.eq_false_iff.mpr hdot, Bool.eq_false_iff.mpr hname⟩

/-- A path stays writable once there is a file. -/
theorem Grows.writable (h : Grows places t u) (hw : Writable t path)
    (hf : (t.file? (Path.place path)).isSome = true) : Writable u path where
  resolve := h.resolve hw.resolve
  free hd := by
    have hsome := h.isSome_file? hf
    rw [file?, hd] at hsome
    cases hsome
  endsInDot := hw.endsInDot
  namesDirectory := hw.namesDirectory

theorem grows_makeDirectory {names : List String} (h : t.makeDirectory names = .ok u) :
    Grows places t u := by
  obtain ⟨place, hnew, rfl⟩ := eq_put_of_makeDirectory h
  exact .directory (.refl t) hnew

theorem isDirectory_makeDirectory {names : List String} (h : t.makeDirectory names = .ok u) :
    u.isDirectory names = true := by
  have hgrows : Grows ∅ t u := grows_makeDirectory h
  cases hw : t.walk [] names with
  | error e => rw [makeDirectory, hw] at h; cases h
  | ok place =>
    simp only [makeDirectory, hw, bind, Except.bind] at h
    split at h
    · cases h
    next hnew =>
      cases h
      have hne : place ≠ [] := ne_nil_of_get?_eq_none hnew
      refine isDirectory_iff.mpr ⟨place, hgrows.walk hw, ?_⟩
      rw [get?_put t hne, if_pos rfl]

theorem grows_makeDirectories (t : FileTree) (names : List String) :
    Grows places t (t.makeDirectories names).1 := by
  fun_induction makeDirectories t names with
  | case1 => exact .refl _
  | case2 name above steps t' hd => exact grows_makeDirectory hd
  | case3 name above steps hd t' e hm ih => simpa [hm] using ih
  | case4 name above steps hd t' hm t'' hd' ih =>
    rw [hm] at ih
    exact ih.trans (grows_makeDirectory hd')
  | case5 name above steps hd t' hm e hd' ih =>
    rw [hm] at ih
    exact ih
  | case6 name above steps e hne hd => exact .refl _

theorem isDirectory_of_makeDirectories {names : List String}
    (h : t.makeDirectories names = (u, .ok ())) : u.isDirectory names.reverse = true := by
  fun_induction makeDirectories t names with
  | case1 => cases h; rfl
  | case2 name above steps t' hd =>
    cases h
    exact isDirectory_makeDirectory hd
  | case3 => cases h
  | case4 name above steps hd t' hm t'' hd' ih =>
    cases h
    exact isDirectory_makeDirectory hd'
  | case5 name above steps hd t' hm e hd' ih =>
    obtain ⟨rfl, hmade⟩ := Prod.mk.inj h
    by_contra hno
    rw [if_neg hno] at hmade
    cases hmade
  | case6 name above steps e hne hd =>
    obtain ⟨rfl, hmade⟩ := Prod.mk.inj h
    by_contra hno
    rw [if_neg hno] at hmade
    cases hmade

theorem makeDirectories_of_isDirectory {names : List String}
    (h : t.isDirectory names.reverse = true) : t.makeDirectories names = (t, .ok ()) := by
  cases names with
  | nil => rfl
  | cons name above =>
    obtain ⟨place, hw, hg⟩ := isDirectory_iff.mp h
    have hmake : t.makeDirectory (name :: above).reverse = .error .alreadyExists := by
      simp only [makeDirectory, hw, hg, bind, Except.bind]
    simp only [makeDirectories, hmake, h, if_true]

end TraitSchema.FileTree
