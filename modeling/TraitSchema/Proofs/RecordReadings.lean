import TraitSchema.Proofs.LinePlaces
import TraitSchema.Proofs.PartReadings

namespace TraitSchema.KeyMap

open Text (Finds ReadsPreferred finds_lastOnLine finds_firstOnLine)

theorem reads_flags :
    ReadsPreferred flags? FlagsText.chars FlagsText.operators fun _ _ => True := by
  refine ⟨fun f left => ?_, fun {text left x} => ?_⟩
  · simp [flags?_eq_some_iff.mpr ⟨f, rfl, rfl⟩]
  · rw [flags?_eq_some_iff]
    constructor
    · rintro ⟨f, rfl, rfl⟩
      exact ⟨f, rfl, rfl, fun _ _ => trivial⟩
    · rintro ⟨f, rfl, rfl, -⟩
      exact ⟨f, rfl, rfl⟩

theorem finds_flags : Finds (fun gap => '\n' ∉ gap) (· ≥ ·) flags? (Text.lastOnLine flags?) :=
  finds_lastOnLine ⟨rfl, flags_neverStarts (by decide)⟩

namespace TaggedText

def reading (t : TaggedText) : TypeTag × OperatorSet :=
  (⟨String.ofList t.tag⟩, t.flags.operators)

theorem chars_append (t : TaggedText) (left : List Char) :
    t.chars ++ left =
      "TRAIT_TYPE_".toList ++ t.tag ++ ',' :: (t.beforeFlags ++ (t.flags.chars ++ left)) := by
  unfold chars
  rw [List.append_assoc, List.append_assoc, List.cons_append]

theorem tag?_chars (t : TaggedText) (left : List Char) :
    tag? (t.chars ++ left) =
      some (⟨String.ofList t.tag⟩, t.beforeFlags ++ (t.flags.chars ++ left)) :=
  tag?_eq_some_iff.mpr ⟨t.tag, t.tag_ne_nil, t.tag_chars, rfl, t.chars_append left⟩

end TaggedText

/-- Of a tag and its flags those are read whose flags open last. -/
theorem reads_tagged :
    ReadsPreferred tagged? TaggedText.chars TaggedText.reading TaggedText.Preferred := by
  have h := reads_flags.headed finds_flags (g := tagged?) (fun _ => rfl) TaggedText.sameLine
    TaggedText.tag?_chars fun text tag gap f left hgap htag => by
      obtain ⟨letters, hne, hletters, rfl, rfl⟩ := tag?_eq_some_iff.mp htag
      let t : TaggedText := ⟨letters, gap, f, hne, hletters, hgap⟩
      exact ⟨t, rfl, rfl, rfl, (t.chars_append left).symm⟩
  simp only [implies_true, and_true] at h
  exact h

theorem tagged?_eq_none_of_blank {c : Char} (h : c = '\n' ∨ Text.isBlank c = true)
    (rest : List Char) : tagged? (c :: rest) = none := by
  refine tagged_neverStarts ?_ rest
  rintro rfl
  revert h
  decide

/-- The tag is looked for in what remains after one fixed lead, and what stands before it leads to
a tag exactly if it is that lead and a part of one line. -/
theorem afterKey_lead (text : List Char) :
    ∃ lead, ∀ gap rest, tagged? rest ≠ none →
      (text = gap ++ rest ∧ LeadsToTag gap ↔
        ∃ onLine, gap = lead ++ onLine ∧ '\n' ∉ onLine ∧ afterKey text = onLine ++ rest) := by
  have hblanks : ∀ c ∈ text.takeWhile Text.isBlank, Text.isBlank c = true :=
    fun c hc => List.mem_takeWhile_imp hc
  have hsplit := List.takeWhile_append_dropWhile (p := Text.isBlank) (l := text)
  unfold afterKey
  split
  next next hnext =>
    rw [hnext] at hsplit
    have hline : '\n' ∉ text.takeWhile Text.isBlank := fun hm => absurd (hblanks _ hm) (by decide)
    refine ⟨text.takeWhile Text.isBlank ++ ['\n'], fun gap rest hrest => ?_⟩
    constructor
    · rintro ⟨ht, hgap | ⟨blanks, onNext, rfl, hb, hn⟩⟩
      · -- a tag on the same line would stand in the blanks or at the line end
        cases rest with
        | nil => exact absurd rfl hrest
        | cons c rest =>
          have hc : ¬ (c = '\n' ∨ Text.isBlank c = true) :=
            fun hc => hrest (tagged?_eq_none_of_blank hc rest)
          rw [not_or] at hc
          exact absurd (ht.symm.trans hsplit.symm)
            (append_cons_ne hgap (fun hm => hc.2 (hblanks c hm)) hc.1)
      · -- both leads end at the first line end
        have hb' : '\n' ∉ blanks := fun hm => absurd (hb _ hm) (by decide)
        rw [← hsplit, List.append_assoc, List.cons_append] at ht
        have hsame := eq_of_append_cons_eq hline hb' ht
        rw [hsame, List.append_cancel_left_eq] at ht
        refine ⟨onNext, ?_, hn, (List.cons.inj ht).2⟩
        rw [hsame, List.append_assoc, List.singleton_append]
    · rintro ⟨onLine, rfl, hon, rfl⟩
      refine ⟨by simpa using hsplit.symm, .inr ⟨_, onLine, ?_, hblanks, hon⟩⟩
      rw [List.append_assoc, List.singleton_append]
  next hnext =>
    refine ⟨[], fun gap rest hrest => ?_⟩
    constructor
    · rintro ⟨ht, hgap | ⟨blanks, onNext, rfl, hb, hn⟩⟩
      · exact ⟨gap, rfl, hgap, ht⟩
      · refine absurd ?_ (hnext (onNext ++ rest))
        rw [ht, List.append_assoc, List.cons_append, List.dropWhile_append_of_pos hb]
        rfl
    · rintro ⟨onLine, rfl, hon, ht⟩
      exact ⟨ht, .inl hon⟩

/-- The tag after a key is looked for at the places to which the text after the key may lead, and
the first one is taken. -/
theorem finds_tagged :
    Finds LeadsToTag (· ≤ ·) tagged? fun text => Text.firstOnLine tagged? (afterKey text) := by
  have hfirst := finds_firstOnLine ⟨rfl, tagged_neverStarts (by decide)⟩
  refine ⟨fun {gap rest} hgap hne => ?_, fun {text x} => ?_⟩
  · obtain ⟨lead, hlead⟩ := afterKey_lead (gap ++ rest)
    obtain ⟨onLine, -, hon, he⟩ := (hlead gap rest hne).mp ⟨rfl, hgap⟩
    rw [he]
    exact hfirst.ne_none hon hne
  obtain ⟨lead, hlead⟩ := afterKey_lead text
  rw [hfirst.some_iff]
  constructor
  · rintro ⟨onLine, rest, ht, hon, hx, hmin⟩
    obtain ⟨hgap, hleads⟩ := (hlead (lead ++ onLine) rest (by simp [hx])).mpr ⟨onLine, rfl, hon, ht⟩
    refine ⟨lead ++ onLine, rest, hgap, hleads, hx, fun gap' rest' he hg' hne => ?_⟩
    obtain ⟨onLine', rfl, hon', ht'⟩ := (hlead gap' rest' hne).mp ⟨he, hg'⟩
    simpa using hmin onLine' rest' ht' hon' hne
  · rintro ⟨gap, rest, ht, hleads, hx, hmin⟩
    obtain ⟨onLine, rfl, hon, hkey⟩ := (hlead gap rest (by simp [hx])).mp ⟨ht, hleads⟩
    refine ⟨onLine, rest, hkey, hon, hx, fun onLine' rest' he hon' hne => ?_⟩
    obtain ⟨ht', hleads'⟩ := (hlead (lead ++ onLine') rest' hne).mpr ⟨onLine', rfl, hon', he⟩
    simpa using hmin (lead ++ onLine') rest' ht' hleads' hne

namespace KeyedText

def reading (k : KeyedText) : String × TypeTag × OperatorSet :=
  (String.ofList k.key, k.tagged.reading)

theorem chars_append (k : KeyedText) (left : List Char) :
    k.chars ++ left = '"' :: k.key ++ '"' :: ',' :: (k.beforeTag ++ (k.tagged.chars ++ left)) := by
  simp only [chars, List.append_assoc, List.cons_append]

theorem key?_chars (k : KeyedText) (left : List Char) :
    key? (k.chars ++ left) =
      some (String.ofList k.key, k.beforeTag ++ (k.tagged.chars ++ left)) :=
  key?_eq_some_iff.mpr ⟨k.key, k.key_chars, rfl, k.chars_append left⟩

end KeyedText

/-- Of a key and what follows it that is read whose tag is the first one. -/
theorem reads_keyed :
    ReadsPreferred keyed? KeyedText.chars KeyedText.reading KeyedText.Preferred :=
  reads_tagged.headed finds_tagged (fun _ => rfl) KeyedText.leadsToTag KeyedText.key?_chars
    fun text key gap t left hgap hkey => by
      obtain ⟨letters, hletters, rfl, rfl⟩ := key?_eq_some_iff.mp hkey
      let k : KeyedText := ⟨letters, gap, t, hletters, hgap⟩
      exact ⟨k, rfl, rfl, rfl, (k.chars_append left).symm⟩

theorem finds_keyed : Finds (fun gap => '\n' ∉ gap) (· ≥ ·) keyed? (Text.lastOnLine keyed?) :=
  finds_lastOnLine ⟨rfl, keyed_neverStarts (by decide)⟩

section Record

variable {segment text : List Char}

theorem RecordText.chars_append (r : RecordText) (left : List Char) :
    r.chars segment ++ left =
      '"' :: segment ++ ':' :: r.suffix ++
        '"' :: ',' :: (r.beforeKey ++ (r.keyed.chars ++ left)) := by
  simp only [chars, List.append_assoc, List.cons_append]

theorem RecordText.name?_chars (r : RecordText) (left : List Char) :
    name? segment (r.chars segment ++ left) =
      some (String.ofList (segment ++ ':' :: r.suffix), r.beforeKey ++ (r.keyed.chars ++ left)) :=
  name?_eq_some_iff.mpr ⟨r.suffix, r.suffix_chars, rfl, r.chars_append left⟩

/-- The declaration that is read, from its name and what is read of the rest. -/
def assembled (segment : List Char) (name : String) (x : String × TypeTag × OperatorSet) :
    Declaration where
  segment := String.ofList segment
  name := name
  key := x.1
  tag := x.2.1
  operators := x.2.2

theorem record?_eq (segment text : List Char) :
    record? segment text = (name? segment text).bind fun p =>
      (Text.lastOnLine keyed? p.2).bind fun q => some (assembled segment p.1 q.1, q.2) := rfl

/-- Of the records that start at a place that is read whose key is the last one. -/
theorem reads_record (segment : List Char) :
    ReadsPreferred (record? segment) (RecordText.chars segment) (RecordText.declaration segment)
      RecordText.Preferred :=
  reads_keyed.headed finds_keyed (record?_eq segment) RecordText.sameLine RecordText.name?_chars
    fun text name gap k left hgap hname => by
      obtain ⟨suffix, hsuffix, rfl, rfl⟩ := name?_eq_some_iff.mp hname
      let r : RecordText := ⟨suffix, gap, k, hsuffix, hgap⟩
      exact ⟨r, rfl, rfl, rfl, (r.chars_append left).symm⟩

theorem record?_eq_some_iff {d : Declaration} {left : List Char} :
    record? segment text = some (d, left) ↔
      ∃ r : RecordText, d = r.declaration segment ∧ text = r.chars segment ++ left ∧
        r.Chosen segment text := by
  rw [(reads_record segment).some_iff]
  constructor
  · rintro ⟨r, rfl, rfl, hpref⟩
    exact ⟨r, rfl, rfl, ⟨left, rfl⟩, hpref⟩
  · rintro ⟨r, rfl, rfl, -, hpref⟩
    exact ⟨r, rfl, rfl, hpref⟩

theorem record?_eq_none_iff : record? segment text = none ↔ ¬ StartsRecord segment text := by
  constructor
  · rintro h ⟨r, left, rfl⟩
    exact (reads_record segment).ne_none r left h
  · intro h
    by_contra hne
    obtain ⟨⟨d, left⟩, hd⟩ := Option.ne_none_iff_exists'.mp hne
    obtain ⟨r, -, rfl, -⟩ := record?_eq_some_iff.mp hd
    exact h ⟨r, left, rfl⟩

end Record

end TraitSchema.KeyMap
