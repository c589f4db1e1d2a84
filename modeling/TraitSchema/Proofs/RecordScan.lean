import TraitSchema.Proofs.RecordReadings

namespace TraitSchema.KeyMap

variable {segment text : List Char}

abbrev found (segment text : List Char) : List Declaration :=
  Text.scan (fun _ => record? segment) text

theorem found_drop_succ {p : Nat} (h : ¬ StartsRecord segment (text.drop p)) :
    found segment (text.drop p) = found segment (text.drop (p + 1)) := by
  rw [← List.tail_drop]
  cases hd : text.drop p with
  | nil => rfl
  | cons c rest => exact Text.scan_cons_of_none (record?_eq_none_iff.mpr (hd ▸ h))

theorem found_drop_of_le {start p : Nat} (hp : start ≤ p)
    (h : ∀ q, start ≤ q → q < p → ¬ StartsRecord segment (text.drop q)) :
    found segment (text.drop start) = found segment (text.drop p) := by
  induction p, hp using Nat.le_induction with
  | base => rfl
  | succ p hle ih =>
    rw [ih fun q hq hlt => h q hq (Nat.lt_succ_of_lt hlt)]
    exact found_drop_succ (h p hle (Nat.lt_succ_self p))

theorem found_drop_eq_nil {start : Nat}
    (h : ∀ p, start ≤ p → ¬ StartsRecord segment (text.drop p)) :
    found segment (text.drop start) = [] := by
  rw [found_drop_of_le (Nat.le_max_left start text.length) fun q hq _ => h q hq,
    List.drop_eq_nil_of_le (Nat.le_max_right start text.length)]
  rfl

theorem found_of_chosen {r : RecordText} (h : r.Chosen segment text) :
    found segment text =
      r.declaration segment :: found segment (text.drop (r.chars segment).length) := by
  obtain ⟨left, rfl⟩ := h.starts
  rw [List.drop_left]
  have hr := record?_eq_some_iff.mpr ⟨r, rfl, rfl, h⟩
  exact Text.scan_cons_of_some hr

/-- The records that are taken are those that the scan finds. -/
theorem eq_found_of_taken {start : Nat} {ds : List Declaration}
    (h : Taken segment text start ds) : ds = found segment (text.drop start) := by
  induction h with
  | none hnone => exact (found_drop_eq_nil hnone).symm
  | next hp hleast hr _ ih =>
    rw [found_drop_of_le hp hleast, found_of_chosen hr, ih, List.drop_drop]

theorem exists_chosen (h : StartsRecord segment text) :
    ∃ r : RecordText, r.Chosen segment text := by
  obtain ⟨⟨d, left⟩, hd⟩ := Option.ne_none_iff_exists'.mp
    fun hnone => record?_eq_none_iff.mp hnone h
  obtain ⟨r, -, -, hr⟩ := record?_eq_some_iff.mp hd
  exact ⟨r, hr⟩

theorem exists_taken (segment text : List Char) (start : Nat) :
    ∃ ds, Taken segment text start ds := by
  induction hn : text.length - start using Nat.strong_induction_on generalizing start with
  | _ n ih =>
    by_cases h : ∃ p, start ≤ p ∧ StartsRecord segment (text.drop p)
    · classical
      obtain ⟨hp, hstarts⟩ := Nat.find_spec h
      obtain ⟨r, hr⟩ := exists_chosen hstarts
      -- the text is shorter after the record, which has at least its first quote
      have hlength := hr.starts.length_le
      have hpos : 0 < (r.chars segment).length := Nat.succ_pos _
      rw [List.length_drop] at hlength
      obtain ⟨ds, hds⟩ := ih _ (by omega) (Nat.find h + (r.chars segment).length) rfl
      exact ⟨_, .next hp (fun q hq hlt hs => Nat.find_min h hlt ⟨hq, hs⟩) hr hds⟩
    · exact ⟨[], .none fun p hp hs => h ⟨p, hp, hs⟩⟩

/-- The declarations of a segment in any text are those of the records taken from its start on. -/
theorem eq_records_iff_taken (segment : String) (text : List Char) (ds : List Declaration) :
    ds = records segment text ↔ Taken (Text.lower segment.toList) text 0 ds := by
  constructor
  · rintro rfl
    obtain ⟨ds, hds⟩ := exists_taken (Text.lower segment.toList) text 0
    have he : ds = records segment text := eq_found_of_taken hds
    exact he ▸ hds
  · exact eq_found_of_taken

/-- A tag and flags follow either key: the later key is taken, with the tag and flags after it. -/
example : (records "BASE" ("\"base:x\",\"a\",TRAIT_TYPE_A,\x7btrue,true,true,true\x7d" ++
    "\"b\",TRAIT_TYPE_B,\x7bfalse,true,true,true\x7d").toList).map (fun d => (d.key, d.tag.text)) =
      [("b", "B")] := by
  decide +kernel

end TraitSchema.KeyMap
