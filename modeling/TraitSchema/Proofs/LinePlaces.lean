import TraitSchema.Proofs.Scanning

namespace TraitSchema.Text

section Places

variable {α : Type} {f : List Char → Option α}

/-- What the reader reads begins with a character that ends no line. -/
structure StartsInLine (f : List Char → Option α) : Prop where
  nil : f [] = none
  lineEnd : NeverStarts f '\n'

/-- The search tries the places of a text that a gap may lead to. It finds something if the reader
reads something at one of them, and takes the place whose gap has the better length. -/
structure Finds (Gap : List Char → Prop) (better : Nat → Nat → Prop)
    (f find : List Char → Option α) : Prop where
  ne_none {gap rest : List Char} (hg : Gap gap) (h : f rest ≠ none) : find (gap ++ rest) ≠ none
  some_iff {text : List Char} {x : α} :
    find text = some x ↔
      ∃ gap rest, text = gap ++ rest ∧ Gap gap ∧ f rest = some x ∧
        ∀ gap' rest', text = gap' ++ rest' → Gap gap' → f rest' ≠ none →
          better gap.length gap'.length

theorem lastOnLine_ne_none (hf : StartsInLine f) {gap rest : List Char} (hg : '\n' ∉ gap)
    (h : f rest ≠ none) : lastOnLine f (gap ++ rest) ≠ none := by
  intro hnone
  have hrest := lastOnLine_suffix_eq_none hg hnone
  cases rest with
  | nil => exact h hf.nil
  | cons c rest =>
    by_cases hc : c = '\n'
    · exact h (hc ▸ hf.lineEnd rest)
    · exact h (lastOnLine_tail_eq_none hc hrest).2

theorem exists_of_lastOnLine (hf : StartsInLine f) {text : List Char} {x : α}
    (h : lastOnLine f text = some x) :
    ∃ gap rest, text = gap ++ rest ∧ '\n' ∉ gap ∧ f rest = some x ∧
      ∀ gap' rest', text = gap' ++ rest' → '\n' ∉ gap' → f rest' ≠ none →
        gap'.length ≤ gap.length := by
  induction text with
  | nil => cases h
  | cons c text ih =>
    rw [lastOnLine] at h
    split at h
    · cases h
    next hc =>
      cases hr : lastOnLine f text with
      | some y =>
        rw [hr] at h
        obtain ⟨gap, rest, rfl, hg, hx, hmax⟩ := ih (hr.trans h)
        refine ⟨c :: gap, rest, rfl, ?_, hx, ?_⟩
        · simpa only [List.mem_cons, not_or] using ⟨Ne.symm hc, hg⟩
        · intro gap' rest' he hg' hne
          cases gap' with
          | nil => exact Nat.zero_le _
          | cons c' gap' =>
            obtain ⟨-, he⟩ := List.cons.inj he
            exact Nat.succ_le_succ (hmax gap' rest' he (fun hm => hg' (List.mem_cons_of_mem c' hm))
              hne)
      | none =>
        rw [hr] at h
        refine ⟨[], c :: text, rfl, List.not_mem_nil, h, fun gap' rest' he hg' hne => ?_⟩
        cases gap' with
        | nil => exact Nat.le_refl 0
        | cons c' gap' =>
          -- a later place would be the one that is found
          obtain ⟨-, rfl⟩ := List.cons.inj he
          exact absurd hr (lastOnLine_ne_none hf (fun hm => hg' (List.mem_cons_of_mem c' hm)) hne)

theorem finds_lastOnLine (hf : StartsInLine f) :
    Finds (fun gap => '\n' ∉ gap) (· ≥ ·) f (lastOnLine f) := by
  refine ⟨fun hg h => lastOnLine_ne_none hf hg h, fun {text x} => ⟨exists_of_lastOnLine hf, ?_⟩⟩
  rintro ⟨gap, rest, rfl, hg, hx, hmax⟩
  have hsome : f rest ≠ none := by simp [hx]
  obtain ⟨y, hy⟩ := Option.ne_none_iff_exists'.mp (lastOnLine_ne_none hf hg hsome)
  obtain ⟨gap', rest', he, hg', hy', hmax'⟩ := exists_of_lastOnLine hf hy
  have hsome' : f rest' ≠ none := by simp [hy']
  -- each of the two places is no earlier than the other
  have hlen : gap.length = gap'.length :=
    Nat.le_antisymm (hmax' gap rest rfl hg hsome) (hmax gap' rest' he hg' hsome')
  obtain ⟨-, rfl⟩ := List.append_inj he hlen
  rw [hy, ← hy', hx]

theorem firstOnLine_ne_none (hf : StartsInLine f) {gap rest : List Char} (hg : '\n' ∉ gap)
    (h : f rest ≠ none) : firstOnLine f (gap ++ rest) ≠ none := by
  induction gap with
  | nil =>
    cases rest with
    | nil => exact absurd hf.nil h
    | cons c rest =>
      have hc : c ≠ '\n' := fun hc => h (hc ▸ hf.lineEnd rest)
      obtain ⟨x, hx⟩ := Option.ne_none_iff_exists'.mp h
      simp [firstOnLine_cons_of_some hc hx]
  | cons c gap ih =>
    simp only [List.mem_cons, not_or] at hg
    rw [List.cons_append, firstOnLine, if_neg (Ne.symm hg.1)]
    split
    · simp
    · exact ih hg.2

theorem exists_of_firstOnLine {text : List Char} {x : α} (h : firstOnLine f text = some x) :
    ∃ gap rest, text = gap ++ rest ∧ '\n' ∉ gap ∧ f rest = some x ∧
      ∀ gap' rest', text = gap' ++ rest' → f rest' ≠ none → gap.length ≤ gap'.length := by
  induction text with
  | nil => cases h
  | cons c text ih =>
    rw [firstOnLine] at h
    split at h
    · cases h
    next hc =>
      cases hr : f (c :: text) with
      | some y =>
        rw [hr] at h
        exact ⟨[], c :: text, rfl, List.not_mem_nil, hr.trans h, fun _ _ _ _ => Nat.zero_le _⟩
      | none =>
        rw [hr] at h
        obtain ⟨gap, rest, rfl, hg, hx, hmin⟩ := ih h
        refine ⟨c :: gap, rest, rfl, ?_, hx, fun gap' rest' he hne => ?_⟩
        · simpa only [List.mem_cons, not_or] using ⟨Ne.symm hc, hg⟩
        · cases gap' with
          | nil => exact absurd hr (he ▸ hne)
          | cons c' gap' =>
            obtain ⟨-, he⟩ := List.cons.inj he
            exact Nat.succ_le_succ (hmin gap' rest' he hne)

theorem finds_firstOnLine (hf : StartsInLine f) :
    Finds (fun gap => '\n' ∉ gap) (· ≤ ·) f (firstOnLine f) := by
  refine ⟨fun hg h => firstOnLine_ne_none hf hg h, fun {text x} => ⟨fun h => ?_, ?_⟩⟩
  · obtain ⟨gap, rest, ht, hg, hx, hmin⟩ := exists_of_firstOnLine h
    exact ⟨gap, rest, ht, hg, hx, fun gap' rest' he _ => hmin gap' rest' he⟩
  · rintro ⟨gap, rest, rfl, hg, hx, hmin⟩
    have hsome : f rest ≠ none := by simp [hx]
    obtain ⟨y, hy⟩ := Option.ne_none_iff_exists'.mp (firstOnLine_ne_none hf hg hsome)
    obtain ⟨gap', rest', he, hg', hy', hmin'⟩ := exists_of_firstOnLine hy
    have hsome' : f rest' ≠ none := by simp [hy']
    have hlen : gap.length = gap'.length :=
      Nat.le_antisymm (hmin gap' rest' he hg' hsome') (hmin' gap rest rfl hsome)
    obtain ⟨-, rfl⟩ := List.append_inj he hlen
    rw [hy, ← hy', hx]

end Places

section Preferred

variable {η ρ σ β γ : Type}

/-- The reader reads something of every text that starts with one of the written things, and what
it reads is the one that is preferred to all others with which the text starts. -/
structure ReadsPreferred (f : List Char → Option (ρ × List Char)) (chars : β → List Char)
    (reading : β → ρ) (Preferred : β → β → Prop) : Prop where
  ne_none (b : β) (left : List Char) : f (chars b ++ left) ≠ none
  some_iff {text left : List Char} {x : ρ} :
    f text = some (x, left) ↔
      ∃ b, x = reading b ∧ text = chars b ++ left ∧
        ∀ other, chars other <+: text → Preferred b other

variable {f find : List Char → Option (ρ × List Char)} {chars : β → List Char} {reading : β → ρ}
  {Preferred : β → β → Prop} {Gap : List Char → Prop} {better : Nat → Nat → Prop}

theorem Finds.preferred (h : ReadsPreferred f chars reading Preferred)
    (hfind : Finds Gap better f find) {text left : List Char} {x : ρ} :
    find text = some (x, left) ↔
      ∃ gap b, x = reading b ∧ Gap gap ∧ text = gap ++ (chars b ++ left) ∧
        ∀ gap' b', Gap gap' → gap' ++ chars b' <+: text →
          better gap.length gap'.length ∧ (gap.length = gap'.length → Preferred b b') := by
  rw [hfind.some_iff]
  constructor
  · rintro ⟨gap, rest, rfl, hgap, hx, hbest⟩
    obtain ⟨b, rfl, rfl, hpref⟩ := h.some_iff.mp hx
    refine ⟨gap, b, rfl, hgap, rfl, ?_⟩
    rintro gap' b' hgap' ⟨left', he⟩
    rw [List.append_assoc] at he
    -- at gaps of one length the same text is left to choose in
    refine ⟨hbest gap' _ he.symm hgap' (h.ne_none b' left'), fun hlen => hpref b' ⟨left', ?_⟩⟩
    exact (List.append_inj he hlen.symm).2
  · rintro ⟨gap, b, rfl, hgap, rfl, hbest⟩
    refine ⟨gap, _, rfl, hgap, h.some_iff.mpr ⟨b, rfl, rfl, ?_⟩, ?_⟩
    · rintro b' ⟨left', he⟩
      exact (hbest gap b' hgap ⟨left', by rw [List.append_assoc, he]⟩).2 rfl
    · intro gap' rest' he hgap' hne
      obtain ⟨⟨x, left'⟩, hx⟩ := Option.ne_none_iff_exists'.mp hne
      obtain ⟨b', -, rfl, -⟩ := h.some_iff.mp hx
      exact (hbest gap' b' hgap' ⟨left', by rw [he, List.append_assoc]⟩).1

/-- A reader that reads a head and then searches for the rest reads what is preferred for its gap
and after it, provided that the head always ends at the same place. -/
theorem ReadsPreferred.headed (h : ReadsPreferred f chars reading Preferred)
    (hfind : Finds Gap better f find) {head : List Char → Option (η × List Char)}
    {combine : η → ρ → σ} {g : List Char → Option (σ × List Char)}
    (hg : ∀ text, g text = (head text).bind fun p =>
      (find p.2).bind fun q => some (combine p.1 q.1, q.2))
    {written : γ → List Char} {headReading : γ → η} {gap : γ → List Char} {inner : γ → β}
    (hgap : ∀ c, Gap (gap c))
    (hwritten : ∀ c left, head (written c ++ left) =
      some (headReading c, gap c ++ (chars (inner c) ++ left)))
    (hhead : ∀ text x gap' b left, Gap gap' →
      head text = some (x, gap' ++ (chars b ++ left)) →
        ∃ c, headReading c = x ∧ gap c = gap' ∧ inner c = b ∧ text = written c ++ left) :
    ReadsPreferred g written (fun c => combine (headReading c) (reading (inner c)))
      fun c other => better (gap c).length (gap other).length ∧
        ((gap c).length = (gap other).length → Preferred (inner c) (inner other)) := by
  refine ⟨fun c left => ?_, fun {text left x} => ⟨fun hread => ?_, ?_⟩⟩
  · obtain ⟨y, hy⟩ := Option.ne_none_iff_exists'.mp
      (hfind.ne_none (hgap c) (h.ne_none (inner c) left))
    simp [hg, hwritten, hy]
  · rw [hg] at hread
    obtain ⟨⟨x, rest⟩, hx, hrest⟩ := Option.bind_eq_some_iff.mp hread
    obtain ⟨⟨y, left'⟩, hy, he⟩ := Option.bind_eq_some_iff.mp hrest
    cases he
    obtain ⟨gap', b, rfl, hgap', rfl, hbest⟩ := (Finds.preferred h hfind).mp hy
    obtain ⟨c, rfl, rfl, rfl, ht⟩ := hhead text x gap' b _ hgap' hx
    refine ⟨c, rfl, ht, ?_⟩
    -- the head of every other reading leaves the same text
    rintro other ⟨left', he⟩
    have hsame := hwritten other left'
    rw [he, hx, Option.some.injEq, Prod.mk.injEq] at hsame
    exact hbest (gap other) (inner other) (hgap other)
      ⟨left', by rw [List.append_assoc]; exact hsame.2.symm⟩
  · rintro ⟨c, rfl, rfl, hbest⟩
    have hy : find (gap c ++ (chars (inner c) ++ left)) = some (reading (inner c), left) := by
      refine (Finds.preferred h hfind).mpr ⟨gap c, inner c, rfl, hgap c, rfl, ?_⟩
      rintro gap' b' hgap' ⟨left', he⟩
      rw [List.append_assoc] at he
      obtain ⟨other, -, rfl, rfl, ht⟩ :=
        hhead _ _ gap' b' left' hgap' ((hwritten c left).trans (by rw [he]))
      exact hbest other ⟨left', ht.symm⟩
    rw [hg, hwritten, Option.bind_some, hy, Option.bind_some]

end Preferred

end TraitSchema.Text
