import Mathlib.Data.Set.Insert
import TraitSchema.Conformance.Run
import TraitSchema.Proofs.FailedRuns
import TraitSchema.Proofs.WrittenDocuments

namespace TraitSchema

theorem fromUTF8?_toUTF8 (s : String) : String.fromUTF8? s.toUTF8 = some s := by
  rw [String.fromUTF8?, String.toUTF8_eq_toByteArray, dif_pos s.isValidUTF8]
  rfl

namespace FileTree

variable {places : Set (List String)} {t u : FileTree} {path : String}

/-- The path is that of a file that can be read. -/
structure Readable (t : FileTree) (path : String) : Prop where
  resolve : t.resolve path = .ok (Path.place path)
  namesDirectory : Path.namesDirectory path = false

/-- There is a file at the path that can be written again. -/
structure Settled (t : FileTree) (path : String) : Prop where
  writable : Writable t path
  isSome : (t.file? (Path.place path)).isSome = true
  parent : Path.parent path ≠ "" → t.isDirectory (Path.steps (Path.parent path)) = true

/-- The document that the file at the path holds. -/
def json? (t : FileTree) (path : String) : Option Json :=
  ((t.file? (Path.place path)).bind String.fromUTF8?).bind Json.read?

theorem Settled.readable (h : Settled t path) : Readable t path :=
  ⟨h.writable.resolve, h.writable.namesDirectory⟩

theorem Grows.readable (h : Grows places t u) (hr : Readable t path) : Readable u path :=
  ⟨h.resolve hr.resolve, hr.namesDirectory⟩

theorem Grows.settled (h : Grows places t u) (hs : Settled t path) : Settled u path where
  writable := h.writable hs.writable hs.isSome
  isSome := h.isSome_file? hs.isSome
  parent hp := h.isDirectory (hs.parent hp)

theorem settled_of_write {content : ByteArray}
    (hparent : Path.parent path ≠ "" → t.isDirectory (Path.steps (Path.parent path)) = true)
    (h : t.write path content = .ok u) :
    Grows {Path.place path} t u ∧ Settled u path ∧ u.file? (Path.place path) = some content := by
  have hw := writable_of_write h
  cases (hw.write content).symm.trans h
  have hput := Grows.file content (.refl t) (Set.mem_singleton _) hw.free
  have hget : (t.put (Path.place path) (.file content)).get? (Path.place path) =
      some (.file content) := by
    rw [get?_put _ (ne_nil_of_get? hw.free), if_pos rfl]
  have hfile : (t.put (Path.place path) (.file content)).file? (Path.place path) =
      some content := by
    rw [file?, hget]
  have hfree : (t.put (Path.place path) (.file content)).get? (Path.place path) ≠
      some .directory := by simp [hget]
  exact ⟨hput, ⟨⟨hput.resolve hw.resolve, hfree, hw.endsInDot, hw.namesDirectory⟩,
    Option.isSome_iff_exists.mpr ⟨content, hfile⟩, fun hp => hput.isDirectory (hparent hp)⟩, hfile⟩

theorem json?_congr (h : u.file? (Path.place path) = t.file? (Path.place path)) :
    u.json? path = t.json? path := by
  rw [json?, h, json?]

/-- A file that a document was written to holds this document. -/
theorem json?_of_file? {value : Json} (hv : Json.Storable Json.nestingLimit value)
    (h : t.file? (Path.place path) = some value.fileText.toUTF8) : t.json? path = some value := by
  rw [json?, h, Option.bind_some, fromUTF8?_toUTF8, Option.bind_some, Json.read?_fileText hv]

/-- What a file holds can be stored again if it has no numbers but whole ones of 64 bits. -/
theorem storable_of_json? {value : Json} (h : t.json? path = some value)
    (hintegral : value.Integral) : Json.Storable Json.nestingLimit value := by
  obtain ⟨text, -, hv⟩ := Option.bind_eq_some_iff.mp h
  exact Json.storable_of_read? hv hintegral

theorem readText_read?_iff {value : Json} :
    (∃ text, t.readText path = .ok text ∧ Json.read? text = some value) ↔
      Readable t path ∧ t.json? path = some value := by
  simp only [readText_eq_ok_iff, json?, Option.bind_eq_some_iff]
  constructor
  · rintro ⟨text, ⟨hr, hn, htext⟩, hv⟩
    exact ⟨⟨hr, hn⟩, text, htext, hv⟩
  · rintro ⟨⟨hr, hn⟩, text, htext, hv⟩
    exact ⟨text, ⟨hr, hn, htext⟩, hv⟩

end FileTree

open FileTree

namespace Task

variable {path : String} {value : Json} {w w' : World}

theorem readJson_eq_ok_iff :
    endIn (readJson path : Task InWorld Json) w = (.ok value, w') ↔
      (Readable w.files path ∧ w.files.json? path = some value) ∧ w = w' := by
  rw [← readText_read?_iff]
  constructor
  · intro h
    obtain ⟨text, w₁, htext, h⟩ := ok_of_bind h
    obtain ⟨hread, rfl⟩ := endIn_readingText_eq_ok_iff.mp htext
    cases hv : Json.read? text with
    | none =>
      rw [hv] at h
      cases h
    | some found =>
      rw [hv] at h
      cases h
      exact ⟨⟨text, hread, hv⟩, rfl⟩
  · rintro ⟨⟨text, htext, hv⟩, rfl⟩
    refine (endIn_bind_of_ok (endIn_readingText_eq_ok_iff.mpr ⟨htext, rfl⟩)).trans ?_
    rw [hv]
    rfl

theorem loadMatrix_eq_ok_iff {t : AdminType} {document : MatrixDocument} :
    endIn (loadMatrix t path : Task InWorld MatrixDocument) w = (.ok document, w') ↔
      (Readable w.files path ∧ ∃ value, w.files.json? path = some value ∧
        MatrixDocument.ofJson value = .ok document) ∧ w = w' := by
  constructor
  · intro h
    obtain ⟨value, w₁, hvalue, h⟩ := ok_of_bind h
    obtain ⟨⟨hr, hv⟩, rfl⟩ := readJson_eq_ok_iff.mp hvalue
    obtain ⟨hd, rfl⟩ := Prod.mk.inj h
    exact ⟨⟨hr, value, hv, mapError_eq_ok_iff.mp hd⟩, rfl⟩
  · rintro ⟨⟨hr, value, hv, hd⟩, rfl⟩
    refine (endIn_bind_of_ok (readJson_eq_ok_iff.mpr ⟨⟨hr, hv⟩, rfl⟩)).trans ?_
    exact Prod.ext (mapError_eq_ok_iff.mpr hd) rfl

theorem endIn_makeParent (path : String) (w : World) :
    endIn (makeParent path) w =
      if Path.parent path = "" then (.ok (), w)
      else
        let made := w.files.makeDirectories (Path.steps (Path.parent path)).reverse
        (made.2.mapError (.file path), { w with files := made.1 }) := by
  rw [makeParent]
  by_cases hp : Path.parent path = ""
  · rw [if_neg (not_not.mpr hp), if_pos hp]
    rfl
  · rw [if_pos hp, if_neg hp]
    rfl

theorem makeParent_ok {places : Set (List String)} (h : endIn (makeParent path) w = (.ok (), w')) :
    Grows places w.files w'.files ∧
      (Path.parent path ≠ "" → w'.files.isDirectory (Path.steps (Path.parent path)) = true) := by
  rw [endIn_makeParent] at h
  split at h
  next hp =>
    cases h
    exact ⟨.refl _, fun hne => absurd hp hne⟩
  next =>
    obtain ⟨hmade, rfl⟩ := Prod.mk.inj h
    refine ⟨grows_makeDirectories _ _, fun _ => ?_⟩
    have hdirectory := isDirectory_of_makeDirectories (Prod.ext rfl (mapError_eq_ok_iff.mp hmade))
    rwa [List.reverse_reverse] at hdirectory

theorem makeParent_of_isDirectory
    (h : Path.parent path ≠ "" → w.files.isDirectory (Path.steps (Path.parent path)) = true) :
    endIn (makeParent path) w = (.ok (), w) := by
  rw [endIn_makeParent]
  split
  next => rfl
  next hp =>
    have hthere : w.files.isDirectory (Path.steps (Path.parent path)).reverse.reverse = true := by
      rw [List.reverse_reverse]
      exact h hp
    rw [makeDirectories_of_isDirectory hthere]
    rfl

/-- A document that was written is in its file, which can be written again, and no other file has
changed. -/
theorem writeJson_ok (h : endIn (writeJson path value : Task InWorld Unit) w = (.ok (), w')) :
    Grows {Path.place path} w.files w'.files ∧ Settled w'.files path ∧
      w'.files.file? (Path.place path) = some value.fileText.toUTF8 := by
  rw [writeJson_eq] at h
  obtain ⟨_, w₁, hparent, h⟩ := ok_of_bind h
  obtain ⟨hgrows, hdirectory⟩ : Grows {Path.place path} w.files w₁.files ∧ _ :=
    makeParent_ok hparent
  rw [endIn_writeText] at h
  cases hwrite : w₁.files.write path value.fileText.toUTF8 with
  | error e =>
    rw [hwrite] at h
    cases h
  | ok files =>
    rw [hwrite] at h
    cases h
    obtain ⟨hput, hsettled, hfile⟩ := settled_of_write hdirectory hwrite
    exact ⟨hgrows.trans hput, hsettled, hfile⟩

theorem writeJson_of_settled (h : Settled w.files path) (value : Json) :
    ∃ w', endIn (writeJson path value : Task InWorld Unit) w = (.ok (), w') := by
  rw [writeJson_eq, endIn_bind_of_ok (makeParent_of_isDirectory h.parent), endIn_writeText,
    h.writable.write]
  exact ⟨_, rfl⟩

/-- What is written to a file is read from it. -/
theorem readJson_of_writeJson (hv : Json.Storable Json.nestingLimit value)
    (h : endIn (writeJson path value : Task InWorld Unit) w = (.ok (), w')) :
    endIn (readJson path : Task InWorld Json) w' = (.ok value, w') := by
  obtain ⟨-, hsettled, hfile⟩ := writeJson_ok h
  exact readJson_eq_ok_iff.mpr ⟨⟨hsettled.readable, json?_of_file? hv hfile⟩, rfl⟩

end Task

namespace Generation

variable {config : Config} {w w' : World} {base : Json}

theorem loadBase_eq_ok_iff :
    endIn (loadBase config : Run InWorld Json) w = (.ok base, w') ↔
      (Readable w.files config.baseSchema ∧ w.files.json? config.baseSchema = some base ∧
        isBaseSchema base = true) ∧ w = w' := by
  constructor
  · intro h
    obtain ⟨found, w₁, hread, h⟩ := ok_of_bind h
    obtain ⟨⟨hr, hv⟩, rfl⟩ := Task.readJson_eq_ok_iff.mp (endIn_adapt_eq_ok_iff.mp hread)
    split at h
    next hbase =>
      cases h
      exact ⟨⟨hr, hv, hbase⟩, rfl⟩
    next => cases h
  · rintro ⟨⟨hr, hv, hbase⟩, rfl⟩
    refine (endIn_bind_of_ok (endIn_adapt_eq_ok_iff.mpr
      (Task.readJson_eq_ok_iff.mpr ⟨⟨hr, hv⟩, rfl⟩))).trans ?_
    rw [if_pos hbase]
    rfl

end Generation

namespace Conformance

theorem validateFile_of_readJson {path : String} {value : Json} {w : World}
    (h : endIn (Task.readJson path : Task InWorld Json) w = (.ok value, w)) :
    endIn (validateFile path : Generation.Run InWorld Report) w = (.ok (validate value), w) := by
  obtain ⟨text, htext, hv⟩ := readText_read?_iff.mpr (Task.readJson_eq_ok_iff.mp h).1
  refine (endIn_bind_of_ok (endIn_readingText_eq_ok_iff.mpr ⟨htext, rfl⟩)).trans ?_
  rw [hv]
  rfl

end Conformance

end TraitSchema
