import TraitSchema.Proofs.ConversionSteps
import TraitSchema.Proofs.RecordReaders

namespace TraitSchema

theorem patternName_append (front rest : List Char) :
    patternName (front ++ rest) = patternName front ++ patternName rest :=
  List.flatMap_append

theorem patternName_cons {c : Char} (h : c ≠ wildcard) (rest : List Char) :
    patternName (c :: rest) = c :: patternName rest := by
  rw [patternName, List.flatMap_cons, if_neg h]
  rfl

theorem patternName_of_not_mem {name : List Char} (h : wildcard ∉ name) :
    patternName name = name := by
  induction name with
  | nil => rfl
  | cons c name ih =>
    simp only [List.mem_cons, not_or] at h
    rw [patternName_cons (Ne.symm h.1), ih h.2]

namespace KeyMap

/-- A character of a declared name: of its segment, of its own part, or the colon between them. -/
def isDeclaredChar (c : Char) : Bool := isNameChar c || c == ':'

theorem isDeclaredChar_iff {c : Char} :
    isDeclaredChar c = true ↔
      c.isLower = true ∨ c.isDigit = true ∨ c = '_' ∨ c = '*' ∨ c = ':' := by
  simp [isDeclaredChar, isNameChar_iff, or_assoc]

theorem name?_chars {segment text rest : List Char} {name : String}
    (hs : ∀ c ∈ segment, c.isLower = true) (h : name? segment text = some (name, rest)) :
    ∀ c ∈ name.toList, isDeclaredChar c = true := by
  obtain ⟨own, -, h⟩ := Option.bind_eq_some_iff.mp h
  obtain ⟨left, -, h⟩ := Option.bind_eq_some_iff.mp h
  obtain ⟨rfl, -⟩ := Prod.mk.inj (Option.some.inj h)
  intro c hc
  rw [String.toList_ofList, List.mem_append, List.mem_cons] at hc
  rcases hc with hc | rfl | hc
  · exact isDeclaredChar_iff.mpr (.inl (hs c hc))
  · rfl
  · have hname : isNameChar c = true := List.mem_takeWhile_imp hc
    simp [isDeclaredChar, hname]

theorem record?_chars {segment text rest : List Char} {d : Declaration}
    (hs : ∀ c ∈ segment, c.isLower = true) (h : record? segment text = some (d, rest)) :
    ∀ c ∈ d.name.toList, isDeclaredChar c = true := by
  obtain ⟨⟨name, left⟩, hname, h⟩ := Option.bind_eq_some_iff.mp h
  obtain ⟨found, -, h⟩ := Option.bind_eq_some_iff.mp h
  obtain ⟨rfl, -⟩ := Prod.mk.inj (Option.some.inj h)
  exact name?_chars hs hname

theorem records_chars {segment : String} {text : List Char} {d : Declaration}
    (hs : ∀ c ∈ segment.toList, c.isAlpha = true) (h : d ∈ records segment text) :
    ∀ c ∈ d.name.toList, isDeclaredChar c = true := by
  obtain ⟨_, _, _, hr⟩ := Text.exists_of_mem_scan h
  exact record?_chars (fun c hc => Text.isLower_of_mem_lower hs hc) hr

theorem isAlpha_of_isSegmentChar {c : Char} (h : isSegmentChar c = true) : c.isAlpha = true := by
  simp [Char.isAlpha, isSegmentChar_iff.mp h]

theorem mapName?_letters {token text name left : List Char}
    (h : mapName? token text = some (name, left)) : ∀ c ∈ name, c.isAlpha = true := by
  obtain ⟨own, -, h⟩ := Option.bind_eq_some_iff.mp h
  obtain ⟨rest, -, h⟩ := Option.bind_eq_some_iff.mp h
  obtain ⟨rfl, -⟩ := Prod.mk.inj (Option.some.inj h)
  exact fun c hc => isAlpha_of_isSegmentChar (List.mem_takeWhile_imp hc)

theorem segments_letters {t : AdminType} {text : List Char} {segment : String}
    (h : segment ∈ segments t text) : ∀ c ∈ segment.toList, c.isAlpha = true := by
  obtain ⟨name, hm, rfl⟩ := List.mem_map.mp h
  obtain ⟨before, rest, left, hr⟩ := Text.exists_of_mem_scan (List.mem_filter.mp hm).1
  unfold mapNameAt? at hr
  split at hr
  next =>
    rw [String.toList_ofList]
    exact mapName?_letters hr
  next => cases hr

theorem declared_chars {t : AdminType} {source : List Char} {d : Declaration}
    (h : d ∈ declared t source) : ∀ c ∈ d.name.toList, isDeclaredChar c = true := by
  obtain ⟨segment, hs, hd⟩ := List.mem_flatMap.mp h
  exact records_chars (segments_letters hs) hd

/-- A declared name is that of its segment, a colon and a part of its own. -/
theorem exists_name_of_mem_records {segment : String} {text : List Char} {d : Declaration}
    (h : d ∈ records segment text) :
    ∃ own, d.name.toList = Text.lower segment.toList ++ ':' :: own := by
  obtain ⟨_, _, _, hr⟩ := Text.exists_of_mem_scan h
  obtain ⟨⟨name, left⟩, hname, hr⟩ := Option.bind_eq_some_iff.mp hr
  obtain ⟨found, -, hr⟩ := Option.bind_eq_some_iff.mp hr
  obtain ⟨rfl, -⟩ := Prod.mk.inj (Option.some.inj hr)
  obtain ⟨own, -, hname⟩ := Option.bind_eq_some_iff.mp hname
  obtain ⟨rest, -, hname⟩ := Option.bind_eq_some_iff.mp hname
  obtain ⟨rfl, -⟩ := Prod.mk.inj (Option.some.inj hname)
  exact ⟨own.takeWhile isNameChar, String.toList_ofList⟩

theorem exists_propertyName_of_mem_records {segment : String} {text : List Char} {d : Declaration}
    (hs : ∀ c ∈ segment.toList, c.isAlpha = true) (h : d ∈ records segment text) :
    ∃ own, d.propertyName.toList = Text.lower segment.toList ++ ':' :: own := by
  obtain ⟨own, hname⟩ := exists_name_of_mem_records h
  have hletters : wildcard ∉ Text.lower segment.toList :=
    fun hw => absurd (Text.isLower_of_mem_lower hs hw) (by decide)
  refine ⟨patternName own, ?_⟩
  rw [Declaration.propertyName, String.toList_ofList, hname, patternName_append,
    patternName_of_not_mem hletters, patternName_cons (by decide)]

/-- Capital letters are told apart by their lower case. -/
theorem eq_of_lower_eq {xs ys : List Char} (hx : ∀ c ∈ xs, isSegmentChar c = true)
    (hy : ∀ c ∈ ys, isSegmentChar c = true) (h : Text.lower xs = Text.lower ys) : xs = ys := by
  rw [Text.lower_of_isAlpha fun c hc => isAlpha_of_isSegmentChar (hx c hc),
    Text.lower_of_isAlpha fun c hc => isAlpha_of_isSegmentChar (hy c hc)] at h
  have hsmall : ∀ {c : Char}, isSegmentChar c = true → c.isLower = false := fun hc => by
    simpa using Char.not_isLower_of_isUpper (isSegmentChar_iff.mp hc)
  rw [← Text.map_toUpper_map_toLower fun c hc => hsmall (hx c hc), h,
    Text.map_toUpper_map_toLower fun c hc => hsmall (hy c hc)]

/-- Traits of different segments have different names in a schema. -/
theorem segment_eq_of_propertyName_eq {s t : String} {text : List Char} {d e : Declaration}
    (hs : ∀ c ∈ s.toList, isSegmentChar c = true) (ht : ∀ c ∈ t.toList, isSegmentChar c = true)
    (hd : d ∈ records s text) (he : e ∈ records t text) (h : d.propertyName = e.propertyName) :
    s = t := by
  have hcolon : ∀ {name : String}, (∀ c ∈ name.toList, c.isAlpha = true) →
      ':' ∉ Text.lower name.toList := fun hn hc =>
    absurd (Text.isLower_of_mem_lower hn hc) (by decide)
  have hs' : ∀ c ∈ s.toList, c.isAlpha = true := fun c hc => isAlpha_of_isSegmentChar (hs c hc)
  have ht' : ∀ c ∈ t.toList, c.isAlpha = true := fun c hc => isAlpha_of_isSegmentChar (ht c hc)
  obtain ⟨own, hd⟩ := exists_propertyName_of_mem_records hs' hd
  obtain ⟨own', he⟩ := exists_propertyName_of_mem_records ht' he
  rw [h, he] at hd
  have hlower := eq_of_append_cons_eq (hcolon ht') (hcolon hs') hd
  exact String.toList_inj.mp (eq_of_lower_eq ht hs hlower).symm

end KeyMap

end TraitSchema
