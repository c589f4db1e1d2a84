import TraitSchema.Proofs.RecordRoundTrip
import TraitSchema.Proofs.RecordScan
import TraitSchema.Proofs.SharedLines

namespace TraitSchema.KeyMap

variable {e : LineEnd} {segment : List Char}

/-- The name has none of the characters that tell the parts of a declaration apart. -/
structure Quotable (name : List Char) : Prop where
  plain : Plain name
  comma : ',' ∉ name

theorem quotable_of_isAlpha {name : List Char} (h : ∀ c ∈ name, c.isAlpha = true) :
    Quotable (Text.lower name) where
  plain := plain_of_forall (fun _ => Text.isLower_of_mem_lower h) (by decide)
  comma hm := absurd (Text.isLower_of_mem_lower h hm) (by decide)

theorem found_of_read {text left : List Char} {d : Declaration}
    (h : record? segment text = some (d, left)) : found segment text = d :: found segment left := by
  obtain ⟨r, rfl, rfl, hr⟩ := record?_eq_some_iff.mp h
  rw [found_of_chosen hr, List.drop_left]

theorem found_of_unquoted {xs : List Char} (h : '"' ∉ xs) (rest : List Char) :
    found segment (xs ++ rest) = found segment rest :=
  Text.scan_append (quoteless_neverStarts h) rest

theorem Spacing.quote_not_mem_written (e : LineEnd) (s : Spacing) : '"' ∉ s.written e := by
  cases s with
  | sameLine => simp [Spacing.written]
  | nextLine blanks blank =>
    have hb : '"' ∉ blanks := fun hm => absurd (blank _ hm) (by decide)
    cases e <;> simp [Spacing.written, LineEnd.text, hb]

/-- A quoted part that starts no record is passed over. -/
theorem found_of_quoted (hs : Quotable segment) {xs rest : List Char}
    (hx : '"' ∉ xs) (h : record? segment ('"' :: (xs ++ '"' :: ',' :: rest)) = none) :
    found segment ('"' :: (xs ++ '"' :: ',' :: rest)) = found segment rest := by
  calc found segment ('"' :: (xs ++ '"' :: ',' :: rest))
    _ = found segment (xs ++ '"' :: ',' :: rest) := Text.scan_cons_of_none h
    _ = found segment ('"' :: ',' :: rest) := found_of_unquoted hx _
    _ = found segment (',' :: rest) := scan_quote_comma hs.comma rest
    _ = found segment rest := found_of_unquoted (by decide : '"' ∉ [',']) rest

theorem found_endPart (x : LaidOut) (rest : List Char) :
    found segment (x.endPart e rest) = found segment rest := by
  have hquote : '"' ∉ '\x7d' :: ',' :: x.afterAll.written e := by
    simp [x.afterAll.quote_not_mem_written e]
  exact found_of_unquoted hquote rest

theorem found_tagPart (x : LaidOut) (rest : List Char) :
    found segment (x.tagPart e rest) = found segment rest := by
  have hquote : '"' ∉ x.wording.tagText ++ '\x7b' :: (x.wording.flagsText ++ ['\x7d']) := by
    simp [x.wording.plain_tagText.quote, x.wording.plain_flagsText.quote]
  have hsplit : x.tagPart e rest =
      x.wording.tagText ++ '\x7b' :: (x.wording.flagsText ++ ['\x7d']) ++ x.endPart e rest := by
    simp [LaidOut.tagPart, LaidOut.flagsPart]
  rw [hsplit, found_of_unquoted hquote, found_endPart]

theorem found_keyPart (hs : Quotable segment) (x : LaidOut) (rest : List Char) :
    found segment (x.keyPart e rest) = found segment rest := by
  have hcolon : ':' ∉ x.wording.key := fun hm => absurd (x.wording.key_name _ hm) (by decide)
  unfold LaidOut.keyPart
  rw [found_of_quoted hs x.wording.plain_key.quote
      (record?_eq_none_of_not_colon hcolon (by decide) hs.plain.quote _),
    found_of_unquoted (x.afterKey.quote_not_mem_written e), found_tagPart]

theorem found_layoutText_cons (x : LaidOut) (rest : List LaidOut) :
    found segment (layoutText e segment (x :: rest)) =
      found segment (x.namePart e segment (layoutText e segment rest)) := by
  rw [layoutText_cons]
  exact Text.scan_cons_of_none (record_neverStarts segment (by decide) _)

/-- The declaration that has the name of the first one, with the key and the tag that are taken for
it, and with the flags that are taken for that tag. -/
def mixed (segment : List Char) (x : LaidOut) (r : LaidOut × LaidOut × List LaidOut) :
    Declaration :=
  { r.1.wording.declaration segment with
    name := String.ofList (x.wording.name segment)
    operators := r.2.1.wording.operators }

theorem found_cons_of_some (hs : Quotable segment) {x : LaidOut}
    {rest : List LaidOut} {r : LaidOut × LaidOut × List LaidOut}
    (h : lastKey? e (x :: rest) = some r) :
    found segment (layoutText e segment (x :: rest)) =
      mixed segment x r :: found segment (layoutText e segment r.2.2) := by
  have hr := record?_namePart (e := e) hs.plain x rest
  rw [h] at hr
  calc found segment (layoutText e segment (x :: rest))
    _ = found segment (x.namePart e segment (layoutText e segment rest)) :=
        found_layoutText_cons x rest
    _ = mixed segment x r :: found segment (r.2.1.endPart e (layoutText e segment r.2.2)) :=
        found_of_read hr
    _ = mixed segment x r :: found segment (layoutText e segment r.2.2) := by
        rw [found_endPart]

theorem found_cons_of_none (hs : Quotable segment) {x : LaidOut}
    {rest : List LaidOut} (h : lastKey? e (x :: rest) = none) :
    found segment (layoutText e segment (x :: rest)) =
      found segment (layoutText e segment rest) := by
  have hr := record?_namePart (e := e) hs.plain x rest
  rw [h] at hr
  calc found segment (layoutText e segment (x :: rest))
    _ = found segment (x.namePart e segment (layoutText e segment rest)) :=
        found_layoutText_cons x rest
    _ = found segment (' ' :: x.keyPart e (layoutText e segment rest)) :=
        found_of_quoted hs (x.wording.plain_name hs.plain).quote hr
    _ = found segment (x.keyPart e (layoutText e segment rest)) :=
        found_of_unquoted (by decide : '"' ∉ [' ']) _
    _ = found segment (layoutText e segment rest) := found_keyPart hs x _

variable {x : LaidOut} {rest : List LaidOut}

theorem Spacing.onLine_eq_some_iff {α : Type} {s : Spacing} {o : Option α} {a : α} :
    s.onLine o = some a ↔ s.breaks = false ∧ o = some a := by
  cases s <;> simp [Spacing.onLine, Spacing.breaks]

theorem Spacing.onLine_eq_none_iff {α : Type} {s : Spacing} {o : Option α} :
    s.onLine o = none ↔ s.breaks = true ∨ o = none := by
  cases s <;> simp [Spacing.onLine, Spacing.breaks]

/-- With the flags of a later declaration all that stands up to their end is taken. -/
theorem lastFlagsFrom_length (x : LaidOut) (rest : List LaidOut) :
    (lastFlagsFrom x rest).2.length ≤ rest.length := by
  induction rest generalizing x with
  | nil => cases h : x.afterAll <;> simp [lastFlagsFrom, lastFlags?, Spacing.onLine, h]
  | cons y later ih =>
    unfold lastFlagsFrom
    cases hl : x.afterAll.onLine (lastFlags? (y :: later)) with
    | none => exact Nat.le_refl _
    | some r =>
      obtain ⟨-, hy⟩ := Spacing.onLine_eq_some_iff.mp hl
      obtain ⟨-, hr⟩ := Spacing.onLine_eq_some_iff.mp hy
      cases hr
      exact Nat.le_succ_of_le (ih y)

theorem lastFlags?_length {xs : List LaidOut} {r : LaidOut × List LaidOut}
    (h : lastFlags? xs = some r) : r.2.length < xs.length := by
  cases xs with
  | nil => cases h
  | cons x rest =>
    obtain ⟨-, hr⟩ := Spacing.onLine_eq_some_iff.mp h
    cases hr
    exact Nat.lt_succ_of_le (lastFlagsFrom_length x rest)

theorem lastKey?_length {xs : List LaidOut} {r : LaidOut × LaidOut × List LaidOut}
    (h : lastKey? e xs = some r) : r.2.2.length < xs.length := by
  induction xs with
  | nil => cases h
  | cons x rest ih =>
    rcases Option.or_eq_some_iff.mp h with hlater | ⟨-, hown⟩
    · have hr := (Spacing.onLine_eq_some_iff.mp (Spacing.onLine_eq_some_iff.mp hlater).2).2
      exact Nat.lt_succ_of_lt (ih hr)
    · obtain ⟨-, hr⟩ := Option.ite_none_left_eq_some.mp hown
      cases hr
      exact Nat.lt_succ_of_le (lastFlagsFrom_length x rest)

/-- Nothing is taken of the declarations behind exactly if the declaration itself can be read and
neither flags nor a key of them are on its lines. -/
theorem lastKey?_eq_own_iff {r : LaidOut × LaidOut × List LaidOut} :
    lastKey? e (x :: rest) = some r ∧ r.2.2.length = rest.length ↔
      r = (x, x, rest) ∧ ¬ (e = .crlf ∧ x.afterKey.breaks = true) ∧
        x.afterAll.onLine (lastFlags? rest) = none ∧
        x.afterKey.onLine (x.afterAll.onLine (lastKey? e rest)) = none := by
  constructor
  · rintro ⟨h, hlength⟩
    rcases Option.or_eq_some_iff.mp h with hlater | ⟨hlater, hown⟩
    · have hr := (Spacing.onLine_eq_some_iff.mp (Spacing.onLine_eq_some_iff.mp hlater).2).2
      exact absurd hlength (Nat.ne_of_lt (lastKey?_length hr))
    · obtain ⟨hread, hr⟩ := Option.ite_none_left_eq_some.mp hown
      cases hr
      have hflags : x.afterAll.onLine (lastFlags? rest) = none := by
        by_contra hne
        obtain ⟨later, hl⟩ := Option.ne_none_iff_exists'.mp hne
        rw [lastFlagsFrom, hl] at hlength
        exact absurd hlength
          (Nat.ne_of_lt (lastFlags?_length (Spacing.onLine_eq_some_iff.mp hl).2))
      rw [lastFlagsFrom, hflags]
      exact ⟨rfl, hread, rfl, hlater⟩
  · rintro ⟨rfl, hread, hflags, hlater⟩
    rw [lastKey?, hlater, ownKey?, if_neg hread, lastFlagsFrom, hflags]
    exact ⟨rfl, rfl⟩

/-- Between two neighbours stands a line break, or both are broken after their keys, and no
declaration is broken after its key where lines end with two characters. -/
structure Apart (e : LineEnd) (xs : List LaidOut) : Prop where
  unbroken : e = .crlf → ∀ x ∈ xs, x.afterKey.breaks = false
  chained : xs.IsChain fun x y =>
    x.afterAll.breaks = true ∨ (x.afterKey.breaks = true ∧ y.afterKey.breaks = true)

instance (e : LineEnd) (xs : List LaidOut) : Decidable (Apart e xs) :=
  decidable_of_iff
    ((e = .crlf → ∀ x ∈ xs, x.afterKey.breaks = false) ∧ xs.IsChain fun x y =>
      x.afterAll.breaks = true ∨ (x.afterKey.breaks = true ∧ y.afterKey.breaks = true))
    ⟨fun h => ⟨h.1, h.2⟩, fun h => ⟨h.unbroken, h.chained⟩⟩

theorem Apart.tail (h : Apart e (x :: rest)) : Apart e rest :=
  ⟨fun he y hy => h.unbroken he y (List.mem_cons_of_mem x hy), h.chained.tail⟩

theorem lastFlags?_cons_eq_none_iff :
    lastFlags? (x :: rest) = none ↔ x.afterKey.breaks = true := by
  rw [lastFlags?, Spacing.onLine_eq_none_iff, or_iff_left (Option.some_ne_none _)]

theorem lastKey?_of_apart (h : Apart e (x :: rest)) :
    lastKey? e (x :: rest) = some (x, x, rest) := by
  have hread : ¬ (e = .crlf ∧ x.afterKey.breaks = true) := fun ⟨he, hb⟩ =>
    Bool.false_ne_true ((h.unbroken he x List.mem_cons_self).symm.trans hb)
  suffices hline : x.afterAll.onLine (lastFlags? rest) = none ∧
      x.afterKey.onLine (x.afterAll.onLine (lastKey? e rest)) = none from
    (lastKey?_eq_own_iff.mpr ⟨rfl, hread, hline.1, hline.2⟩).1
  simp only [Spacing.onLine_eq_none_iff]
  cases rest with
  | nil => exact ⟨.inr rfl, .inr (.inr rfl)⟩
  | cons y later =>
    rcases (List.isChain_cons_cons.mp h.chained).1 with hall | ⟨hx, hy⟩
    · exact ⟨.inl hall, .inr (.inl hall)⟩
    · exact ⟨.inr (lastFlags?_cons_eq_none_iff.mpr hy), .inl hx⟩

theorem Apart.cons (hrest : Apart e rest) (h : lastKey? e (x :: rest) = some (x, x, rest)) :
    Apart e (x :: rest) := by
  obtain ⟨-, hread, hflags, hlater⟩ := lastKey?_eq_own_iff.mp ⟨h, rfl⟩
  simp only [Spacing.onLine_eq_none_iff] at hflags hlater
  refine ⟨fun he => List.forall_mem_cons.mpr ⟨?_, hrest.unbroken he⟩, ?_⟩
  · exact Bool.eq_false_iff.mpr fun hb => hread ⟨he, hb⟩
  · cases rest with
    | nil => exact List.isChain_singleton x
    | cons y later =>
      refine List.isChain_cons_cons.mpr ⟨?_, hrest.chained⟩
      by_cases hall : x.afterAll.breaks = true
      · exact .inl hall
      · have hx := hlater.resolve_right fun hl => by
          rw [lastKey?_of_apart hrest] at hl
          exact hl.elim hall (Option.some_ne_none _)
        exact .inr ⟨hx, lastFlags?_cons_eq_none_iff.mp (hflags.resolve_left hall)⟩

section Read

variable (hs : Quotable segment)

include hs

theorem found_of_apart {xs : List LaidOut} (h : Apart e xs) :
    found segment (layoutText e segment xs) =
      xs.map fun x => x.wording.declaration segment := by
  induction xs with
  | nil => rfl
  | cons x rest ih =>
    rw [found_cons_of_some hs (lastKey?_of_apart h), ih h.tail]
    rfl

/-- A layout gives at most as many declarations as it has: the text that is left behind one of
them holds fewer. -/
theorem found_length_le (xs : List LaidOut) :
    (found segment (layoutText e segment xs)).length ≤ xs.length := by
  induction hn : xs.length using Nat.strong_induction_on generalizing xs with
  | _ n ih =>
    subst hn
    cases xs with
    | nil => exact Nat.le_refl 0
    | cons x rest =>
      cases h : lastKey? e (x :: rest) with
      | none =>
        rw [found_cons_of_none hs h]
        exact Nat.le_succ_of_le (ih rest.length (Nat.lt_succ_self _) rest rfl)
      | some r =>
        have hr := lastKey?_length h
        rw [found_cons_of_some hs h]
        exact Nat.lt_of_le_of_lt (ih r.2.2.length hr r.2.2 rfl) hr

/-- Where declarations are not kept apart one of them is lost. -/
theorem apart_of_found_length {xs : List LaidOut}
    (h : (found segment (layoutText e segment xs)).length = xs.length) : Apart e xs := by
  induction xs with
  | nil => exact ⟨fun _ _ hx => absurd hx List.not_mem_nil, List.isChain_nil⟩
  | cons x rest ih =>
    have hrest := found_length_le (e := e) hs rest
    cases hk : lastKey? e (x :: rest) with
    | none =>
      rw [found_cons_of_none hs hk, List.length_cons] at h
      omega
    | some r =>
      have hr := Nat.le_of_lt_succ (lastKey?_length hk)
      have hleft := found_length_le (e := e) hs r.2.2
      rw [found_cons_of_some hs hk, List.length_cons, List.length_cons] at h
      have hfound : (found segment (layoutText e segment r.2.2)).length = r.2.2.length := by omega
      obtain ⟨rfl, -⟩ := lastKey?_eq_own_iff.mp ⟨hk, by omega⟩
      exact (ih hfound).cons hk

end Read

/-- A layout gives its declarations, each as it was written, exactly if it keeps them apart. Two
layouts of one list that do so give the same, and a layout that does not gives another result than
one that does. -/
theorem layouts_read_alike (segment : String) (hs : Quotable (Text.lower segment.toList))
    (e e' : LineEnd) (xs ys : List LaidOut)
    (hw : xs.map LaidOut.wording = ys.map LaidOut.wording) :
    let lower := Text.lower segment.toList
    (Apart e xs ↔ records segment (layoutText e lower xs) =
        xs.map fun x => x.wording.declaration lower) ∧
      (Apart e xs → (Apart e' ys ↔
        records segment (layoutText e' lower ys) = records segment (layoutText e lower xs))) := by
  intro lower
  have hiff : ∀ (e : LineEnd) (xs : List LaidOut), Apart e xs ↔
      records segment (layoutText e lower xs) = xs.map fun x => x.wording.declaration lower := by
    intro e xs
    refine ⟨found_of_apart hs, fun h => apart_of_found_length hs ?_⟩
    have hlength := congrArg List.length h
    rwa [List.length_map] at hlength
  have hsame : (ys.map fun x => x.wording.declaration lower) =
      xs.map fun x => x.wording.declaration lower := by
    have h := congrArg (List.map (Wording.declaration lower)) hw.symm
    rwa [List.map_map, List.map_map] at h
  refine ⟨hiff e xs, fun hx => ?_⟩
  rw [hiff e' ys, (hiff e xs).mp hx, hsame]

def indented : Spacing := .nextLine [' ', ' '] (by simp)

theorem stringTag_ne_nil : "STRING".toList ≠ [] := by simp

def ownerWording : Wording where
  suffix := "owner".toList
  key := "owner".toList
  tag := "STRING".toList
  operators := ⟨true, false, false, true⟩
  suffix_name := by simp [isNameChar, isKeyChar]
  key_name := by simp [isKeyChar]
  tag_letters := by simp [isTagChar]
  tag_ne := stringTag_ne_nil

def nameWording : Wording where
  suffix := "name".toList
  key := "name".toList
  tag := "BOOLEAN".toList
  operators := ⟨true, true, false, false⟩
  suffix_name := by simp [isNameChar, isKeyChar]
  key_name := by simp [isKeyChar]
  tag_letters := by simp [isTagChar]
  tag_ne := by simp

def twoTraits (afterKey afterAll : Spacing) : List LaidOut :=
  [⟨ownerWording, afterKey, afterAll⟩, ⟨nameWording, afterKey, afterAll⟩]

/-- Two declarations with lines of their own, and the same ones that share a line on which the
first one ends and the second one begins. -/
theorem layouts_read_alike_two_traits :
    let lower := Text.lower "BASE".toList
    let separate := twoTraits .sameLine indented
    let shared := twoTraits indented .sameLine
    Quotable lower ∧ separate.map LaidOut.wording = shared.map LaidOut.wording ∧
      Apart .crlf separate ∧ Apart .lf shared ∧
      records "BASE" (layoutText .crlf lower separate) =
        [ownerWording.declaration lower, nameWording.declaration lower] ∧
      records "BASE" (layoutText .lf lower shared) =
        records "BASE" (layoutText .crlf lower separate) := by
  intro lower separate shared
  have hs : Quotable lower := quotable_of_isAlpha (by simp)
  have hseparate : Apart .crlf separate := by decide
  have hshared : Apart .lf shared := by decide
  have hw : separate.map LaidOut.wording = shared.map LaidOut.wording := rfl
  obtain ⟨hiff, hsame⟩ := layouts_read_alike "BASE" hs .crlf .lf separate shared hw
  exact ⟨hs, hw, hseparate, hshared, hiff.mp hseparate, (hsame hseparate).mp hshared⟩

/-- Of two declarations on one line the first one gets the key, the tag and the flags of the second
one, which is lost, and a declaration that is broken after its key is lost where lines end with two
characters. -/
theorem layouts_read_differently :
    let separate := twoTraits .sameLine indented
    let shared := twoTraits .sameLine .sameLine
    let broken := twoTraits indented indented
    let read e xs := (records "BASE" (layoutText e "base".toList xs)).map
      fun d => (d.name, d.key, d.tag.text, d.operators)
    shared.map LaidOut.wording = separate.map LaidOut.wording ∧
      broken.map LaidOut.wording = separate.map LaidOut.wording ∧
      read .lf separate =
        [("base:owner", "owner", "STRING", ⟨true, false, false, true⟩),
          ("base:name", "name", "BOOLEAN", ⟨true, true, false, false⟩)] ∧
      read .lf shared = [("base:owner", "name", "BOOLEAN", ⟨true, true, false, false⟩)] ∧
      read .crlf broken = [] := by
  refine ⟨rfl, rfl, ?_⟩
  decide +kernel

end TraitSchema.KeyMap
