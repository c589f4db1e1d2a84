import TraitSchema.Proofs.Letters
import TraitSchema.Proofs.Scanning

namespace TraitSchema

namespace Text

variable {α : Type} {read : Option Char → List Char → Option (α × List Char)} {text : List Char}

def readAt (read : Option Char → List Char → Option (α × List Char)) (text : List Char) (p : Nat) :
    Option (α × List Char) :=
  read (text.take p).getLast? (text.drop p)

/-- The things that the reader reads at the places of a text, each with its place. -/
def readings (read : Option Char → List Char → Option (α × List Char)) (text : List Char) :
    List (Nat × α) :=
  (List.range text.length).filterMap fun p => (readAt read text p).map fun found => (p, found.1)

/-- Within a thing that is read nothing else can be read. -/
def NeverOverlaps (read : Option Char → List Char → Option (α × List Char))
    (text : List Char) : Prop :=
  ∀ p x left, readAt read text p = some (x, left) →
    ∀ q, p < q → q + left.length < text.length → readAt read text q = none

theorem mem_readings {p : Nat} {x : α} :
    (p, x) ∈ readings read text ↔
      p < text.length ∧ ∃ left, readAt read text p = some (x, left) := by
  simp [readings]

theorem pairwise_readings : (readings read text).Pairwise fun a b => a.1 < b.1 := by
  refine List.pairwise_lt_range.filterMap _ fun p q hpq a ha b hb => ?_
  obtain ⟨_, -, rfl⟩ := Option.map_eq_some_iff.mp ha
  obtain ⟨_, -, rfl⟩ := Option.map_eq_some_iff.mp hb
  exact hpq

/-- A scan goes over the places of the rest of a text. It skips some of them, at which nothing can
be read. -/
theorem scanFrom_eq_filterMap (h : NeverOverlaps read text) (rest front : List Char) (skip : Nat)
    (ht : text = front ++ rest)
    (hskip : ∀ i < skip, i < rest.length → readAt read text (front.length + i) = none) :
    scanFrom read skip front.getLast? rest =
      (List.range' front.length rest.length).filterMap fun p => (readAt read text p).map (·.1) := by
  induction rest generalizing front skip with
  | nil => rfl
  | cons c rest ih =>
    have hlength : (front ++ [c]).length = front.length + 1 := List.length_append
    have hnext : ∀ skip, (∀ i < skip, i < rest.length →
        readAt read text (front.length + 1 + i) = none) →
        scanFrom read skip (some c) rest = (List.range' (front.length + 1) rest.length).filterMap
          fun p => (readAt read text p).map (·.1) := by
      intro skip hskip
      have hi := ih (front ++ [c]) skip (by rw [ht, List.append_assoc, List.singleton_append])
        (by rwa [hlength])
      rwa [List.getLast?_concat, hlength] at hi
    have hat : readAt read text front.length = read front.getLast? (c :: rest) := by
      rw [readAt, ht, List.take_left, List.drop_left]
    rw [List.length_cons, List.range'_succ]
    cases skip with
    | succ skip =>
      have hnone : readAt read text front.length = none :=
        hskip 0 (Nat.succ_pos skip) (Nat.succ_pos _)
      rw [scanFrom, List.filterMap_cons, hnone]
      refine hnext skip fun i hi hlt => ?_
      have hlater := hskip (i + 1) (Nat.succ_lt_succ hi) (Nat.succ_lt_succ hlt)
      rwa [Nat.add_assoc, Nat.add_comm 1 i]
    | zero =>
      rw [scanFrom, List.filterMap_cons, hat]
      cases hr : read front.getLast? (c :: rest) with
      | none => exact hnext 0 fun i hi => absurd hi (Nat.not_lt_zero i)
      | some found =>
        refine congrArg (found.1 :: ·) (hnext _ fun i hi _ => ?_)
        -- the places that are skipped lie within what has been read
        refine h front.length found.1 found.2 (hat.trans hr) _ (by omega) ?_
        rw [ht, List.length_append, List.length_cons]
        omega

/-- Where things do not overlap, a scan finds what can be read at any place. -/
theorem scan_eq_readings (h : NeverOverlaps read text) :
    scan read text = (readings read text).map (·.2) := by
  have hscan := scanFrom_eq_filterMap h text [] 0 rfl fun i hi => absurd hi (Nat.not_lt_zero i)
  rw [scan, ← List.getLast?_nil, hscan, readings, List.map_filterMap, List.range_eq_range']
  simp only [Option.map_map]
  rfl

end Text

namespace KeyMap

def mapEndings : List (List Char) := ["_SEGMENT_MAP".toList, "_KEY_MAP".toList]

/-- At the place `p` of the text an identifier begins, right after the start of the text or a
character that is no word character, which has the token of an admin type and names a segment. -/
structure NamesSegmentAt (token text : List Char) (p : Nat) (name : List Char) : Prop where
  border : ∀ c, (text.take p).getLast? = some c → Text.isWord c = false
  letters : ∀ c ∈ name, isSegmentChar c = true
  starts : ∃ ending ∈ mapEndings, token ++ '_' :: name ++ ending <+: text.drop p

variable {token text name left : List Char}

theorem endings_eq_some_iff {rest : List Char} :
    (Text.after? "_SEGMENT_MAP".toList rest <|> Text.after? "_KEY_MAP".toList rest) = some left ↔
      ∃ ending ∈ mapEndings, rest = ending ++ left := by
  simp only [Option.orElse_eq_some, Text.after?_eq_some_iff, mapEndings, List.mem_cons,
    List.not_mem_nil, or_false, exists_eq_or_imp, exists_eq_left]
  refine or_congr_right (and_iff_right_of_imp ?_)
  rintro rfl
  rfl

theorem takeWhile_letters {ending : List Char} (hname : ∀ c ∈ name, isSegmentChar c = true)
    (hending : ending ∈ mapEndings) (left : List Char) :
    (name ++ (ending ++ left)).takeWhile isSegmentChar = name ∧
      (name ++ (ending ++ left)).dropWhile isSegmentChar = ending ++ left := by
  rw [List.takeWhile_append_of_pos hname, List.dropWhile_append_of_pos hname]
  rcases List.mem_pair.mp hending with rfl | rfl <;> exact ⟨List.append_nil name, rfl⟩

theorem mapName?_eq_some_iff :
    mapName? token text = some (name, left) ↔
      (∀ c ∈ name, isSegmentChar c = true) ∧
        ∃ ending ∈ mapEndings, text = token ++ '_' :: name ++ ending ++ left := by
  constructor
  · intro h
    obtain ⟨rest, hrest, h⟩ := Option.bind_eq_some_iff.mp h
    obtain ⟨left', hleft, h⟩ := Option.bind_eq_some_iff.mp h
    cases h
    obtain ⟨ending, hending, hrest'⟩ := endings_eq_some_iff.mp hleft
    refine ⟨fun c hc => List.mem_takeWhile_imp hc, ending, hending, ?_⟩
    calc text = token ++ ['_'] ++ rest := Text.after?_eq_some_iff.mp hrest
      _ = token ++ ['_'] ++ (rest.takeWhile isSegmentChar ++ (ending ++ left)) := by
        rw [← hrest', List.takeWhile_append_dropWhile]
      _ = token ++ '_' :: rest.takeWhile isSegmentChar ++ ending ++ left := by simp
  · rintro ⟨hname, ending, hending, rfl⟩
    have hlead : Text.after? (token ++ ['_']) (token ++ '_' :: name ++ ending ++ left) =
        some (name ++ (ending ++ left)) := by
      rw [Text.after?_eq_some_iff]
      simp
    obtain ⟨htake, hdrop⟩ := takeWhile_letters hname hending left
    simp only [mapName?, hlead, Option.bind_eq_bind, Option.bind_some, htake, hdrop,
      endings_eq_some_iff.mpr ⟨ending, hending, Eq.refl (ending ++ left)⟩]
    rfl

theorem isWord_of_letter {c : Char} (h : isSegmentChar c = true ∨ c = '_') :
    Text.isWord c = true := by
  rcases h with h | rfl
  · have hletter : c.isAlphanum = true := by
      simp [Char.isAlphanum, Char.isAlpha, isSegmentChar_iff.mp h]
    simp [Text.isWord, hletter]
  · simp [Text.isWord]

theorem isWord_of_mapName? (htoken : ∀ c ∈ token, Text.isWord c = true)
    (h : mapName? token text = some (name, left)) :
    ∃ word, text = word ++ left ∧ ∀ c ∈ word, Text.isWord c = true := by
  obtain ⟨hname, ending, hending, rfl⟩ := mapName?_eq_some_iff.mp h
  have hend : ∀ c ∈ ending, isSegmentChar c = true ∨ c = '_' := by
    rcases List.mem_pair.mp hending with rfl | rfl <;> simp [isSegmentChar]
  refine ⟨token ++ '_' :: name ++ ending, rfl, fun c hc => ?_⟩
  simp only [List.mem_append, List.mem_cons] at hc
  rcases hc with (hc | rfl | hc) | hc
  · exact htoken c hc
  · exact isWord_of_letter (.inr rfl)
  · exact isWord_of_letter (.inl (hname c hc))
  · exact isWord_of_letter (hend c hc)

/-- An identifier begins at the border of a word exactly if no word character stands before it. -/
theorem mapNameAt?_eq_some_iff (hne : token ≠ []) (htoken : ∀ c ∈ token, Text.isWord c = true)
    {before : Option Char} :
    mapNameAt? token before text = some (name, left) ↔
      (∀ c, before = some c → Text.isWord c = false) ∧
        mapName? token text = some (name, left) := by
  have hborder : mapName? token text = some (name, left) →
      (isBorder before text.head? = true ↔ ∀ c, before = some c → Text.isWord c = false) := by
    intro h
    obtain ⟨-, ending, -, rfl⟩ := mapName?_eq_some_iff.mp h
    obtain ⟨first, token, rfl⟩ := List.exists_cons_of_ne_nil hne
    have hfirst : Text.isWord first = true := htoken first List.mem_cons_self
    cases before <;> simp [isBorder, hfirst]
  rw [mapNameAt?, Option.ite_none_right_eq_some]
  exact and_congr_left hborder

theorem exists_getLast?_take {word : List Char} {p q : Nat} (hword : text.drop p = word ++ left)
    (hpq : p < q) (hq : q + left.length < text.length) :
    ∃ c ∈ word, (text.take q).getLast? = some c := by
  have hlength := congrArg List.length hword
  rw [List.length_drop, List.length_append] at hlength
  have htake : text.take q = text.take p ++ word.take (q - p) := by
    calc text.take q = text.take (p + (q - p)) := by rw [Nat.add_sub_cancel' (Nat.le_of_lt hpq)]
      _ = text.take p ++ (text.drop p).take (q - p) := List.take_add
      _ = text.take p ++ word.take (q - p) := by
        rw [hword, List.take_append_of_le_length (by omega)]
  have hne : word.take (q - p) ≠ [] := by
    apply List.ne_nil_of_length_pos
    rw [List.length_take]
    omega
  refine ⟨(word.take (q - p)).getLast hne, List.mem_of_mem_take (List.getLast_mem hne), ?_⟩
  rw [htake, List.getLast?_append_of_ne_nil _ hne, List.getLast?_eq_some_getLast hne]

/-- No identifier begins within another one, where every character stands behind a word
character. -/
theorem neverOverlaps_mapNameAt? (hne : token ≠ []) (htoken : ∀ c ∈ token, Text.isWord c = true)
    (text : List Char) : Text.NeverOverlaps (mapNameAt? token) text := by
  intro p name left h q hpq hq
  obtain ⟨-, hname⟩ := (mapNameAt?_eq_some_iff hne htoken).mp h
  obtain ⟨word, hword, hchars⟩ := isWord_of_mapName? htoken hname
  by_contra hsome
  obtain ⟨⟨other, left'⟩, hother⟩ := Option.ne_none_iff_exists'.mp hsome
  obtain ⟨hborder, -⟩ := (mapNameAt?_eq_some_iff hne htoken).mp hother
  obtain ⟨c, hc, hbefore⟩ := exists_getLast?_take hword hpq hq
  cases (hchars c hc).symm.trans (hborder c hbefore)

theorem readAt_mapNameAt?_iff (hne : token ≠ []) (htoken : ∀ c ∈ token, Text.isWord c = true)
    {p : Nat} :
    (∃ left, Text.readAt (mapNameAt? token) text p = some (name, left)) ↔
      NamesSegmentAt token text p name := by
  simp only [Text.readAt, mapNameAt?_eq_some_iff hne htoken, mapName?_eq_some_iff]
  constructor
  · rintro ⟨left, hborder, hletters, ending, hending, ht⟩
    exact ⟨hborder, hletters, ending, hending, left, ht.symm⟩
  · rintro ⟨hborder, hletters, ending, hending, left, ht⟩
    exact ⟨left, hborder, hletters, ending, hending, ht.symm⟩

theorem NamesSegmentAt.lt_length {p : Nat} (h : NamesSegmentAt token text p name) :
    p < text.length := by
  obtain ⟨ending, -, hstarts⟩ := h.starts
  by_contra hp
  rw [List.drop_eq_nil_of_le (Nat.le_of_not_lt hp), List.prefix_nil] at hstarts
  simp at hstarts

theorem isTableName_iff : isTableName name = true ↔ "SEGMENT".toList <:+ name :=
  List.isSuffixOf_iff_suffix

/-- The search for the segments of an admin type, whose token is a word, finds one for each place
at which an identifier names it, in the order of the places, except for the names that end as the
segment table itself is named. -/
theorem segments_are_named_places (t : AdminType) (hne : t.token ≠ [])
    (htoken : ∀ c ∈ t.token, Text.isWord c = true) (text : List Char) :
    ∃ places : List (Nat × List Char),
      places.Pairwise (fun a b => a.1 < b.1) ∧
      (∀ p name, (p, name) ∈ places ↔
        NamesSegmentAt t.token text p name ∧ ¬ "SEGMENT".toList <:+ name) ∧
      segments t text = places.map fun place => String.ofList place.2 := by
  refine ⟨(Text.readings (mapNameAt? t.token) text).filter fun place => !isTableName place.2,
    Text.pairwise_readings.filter _, fun p name => ?_, ?_⟩
  · have hplace : (p, name) ∈ Text.readings (mapNameAt? t.token) text ↔
        NamesSegmentAt t.token text p name := by
      rw [Text.mem_readings, readAt_mapNameAt?_iff hne htoken]
      exact and_iff_right_of_imp NamesSegmentAt.lt_length
    rw [List.mem_filter, hplace, ← isTableName_iff, Bool.not_eq_true, Bool.not_eq_true']
  · rw [segments, Text.scan_eq_readings (neverOverlaps_mapNameAt? hne htoken text), List.filter_map,
      List.map_map]
    rfl

def tsoMaps : List Char := "RACF_USER_X_KEY_MAP USER_SEGMENT_KEY_MAP,USER_TSO_KEY_MAP".toList

theorem segments_are_named_places_tso :
    ∃ places : List (Nat × List Char),
      (41, "TSO".toList) ∈ places ∧ (20, "SEGMENT".toList) ∉ places ∧ (5, ['X']) ∉ places ∧
      segments ⟨"user"⟩ tsoMaps = places.map fun place => String.ofList place.2 := by
  have htoken : AdminType.token ⟨"user"⟩ = "USER".toList := by decide +kernel
  have hletters : ∀ c ∈ "USER".toList, isSegmentChar c = true := by simp [isSegmentChar]
  obtain ⟨places, -, hplaces, hsegments⟩ := segments_are_named_places ⟨"user"⟩
    (by rw [htoken]; decide)
    (fun c hc => isWord_of_letter (.inl (hletters c (htoken ▸ hc)))) tsoMaps
  rw [htoken] at hplaces
  refine ⟨places, (hplaces _ _).mpr ⟨⟨?_, ?_, ?_⟩, by decide⟩, fun h => ?_, fun h => ?_, hsegments⟩
  · have hbefore : (tsoMaps.take 41).getLast? = some ',' := by decide +kernel
    rw [hbefore]
    rintro c ⟨⟩
    decide +kernel
  · simp [isSegmentChar]
  · exact ⟨"_KEY_MAP".toList, by simp [mapEndings], by decide +kernel⟩
  · exact ((hplaces _ _).mp h).2 (by decide)
  · have hbefore : (tsoMaps.take 5).getLast? = some '_' := by decide +kernel
    have hborder := ((hplaces _ _).mp h).1.border '_' hbefore
    rw [isWord_of_letter (.inr rfl)] at hborder
    cases hborder

end KeyMap

end TraitSchema
