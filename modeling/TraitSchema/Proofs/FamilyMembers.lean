import TraitSchema.Proofs.FamilyPatterns

namespace TraitSchema.Pattern

open KeyMap (isDeclaredChar isDeclaredChar_iff)

/-- The set has the character. Rules are given for the sets of characters and ranges of them. -/
inductive ClassSet.Has : ClassSet → Char → Prop
  | single (l : Literal) : Has (.single l) l.char
  | range {first last : Literal} {c : Char} (hfirst : first.char ≤ c) (hlast : c ≤ last.char) :
    Has (.range first last) c
  | union {sets : List ClassSet} {set : ClassSet} {c : Char} (hset : set ∈ sets) (h : Has set c) :
    Has (.union sets) c

/-- The pattern takes the front of the first text and leaves the second one. Rules are given for
the patterns made of characters, sets, ends of the text, repetitions and sequences, flags apart. -/
inductive Takes : Expr → List Char → List Char → Prop
  | empty (text : List Char) : Takes .empty text text
  | literal (l : Literal) (left : List Char) : Takes (.atom (.literal l)) (l.char :: left) left
  | lineEnd : Takes (.atom (.assertion .lineEnd)) [] []
  | bracket {set : ClassSet} {c : Char} (left : List Char) (h : set.Has c) :
    Takes (.bracket false set) (c :: left) left
  | enough (e : Expr) (most : Option Nat) (text : List Char) :
    Takes (.repetition e 0 most) text text
  | again {e : Expr} {least : Nat} {most : Option Nat} {text middle left : List Char}
    (hmost : most ≠ some 0) (h : Takes e text middle)
    (hrest : Takes (.repetition e (least - 1) (most.map (· - 1))) middle left) :
    Takes (.repetition e least most) text left
  | nil (text : List Char) : Takes (.concat []) text text
  | cons {e : Expr} {es : List Expr} {text middle left : List Char} (h : Takes e text middle)
    (hrest : Takes (.concat es) middle left) : Takes (.concat (e :: es)) text left

/-- The pattern can be read and takes a part of the text, wherever it stands. -/
def Matches (pattern text : List Char) : Prop :=
  ∃ e, parse? pattern = some e ∧ ∃ front rest left, text = front ++ rest ∧ Takes e rest left

section Rules

variable {set : ClassSet} {c : Char} {e : Expr} {es es' : List Expr} {text left : List Char}

theorem has_single_iff {l : Literal} : ClassSet.Has (.single l) c ↔ c = l.char := by
  constructor
  · intro h
    cases h
    rfl
  · intro h
    rw [h]
    exact .single l

theorem has_range_iff {first last : Literal} :
    ClassSet.Has (.range first last) c ↔ first.char ≤ c ∧ c ≤ last.char := by
  constructor
  · intro h
    cases h with
    | range hfirst hlast => exact ⟨hfirst, hlast⟩
  · intro h
    exact .range h.1 h.2

theorem has_union_iff {sets : List ClassSet} :
    ClassSet.Has (.union sets) c ↔ ∃ set ∈ sets, set.Has c := by
  constructor
  · intro h
    cases h with
    | union hset h => exact ⟨_, hset, h⟩
  · intro h
    obtain ⟨set, hset, h⟩ := h
    exact .union hset h

theorem takes_literal_iff {l : Literal} :
    Takes (.atom (.literal l)) text left ↔ text = l.char :: left := by
  constructor
  · intro h
    cases h
    rfl
  · intro h
    rw [h]
    exact .literal l left

theorem takes_lineEnd_iff :
    Takes (.atom (.assertion .lineEnd)) text left ↔ text = [] ∧ left = [] := by
  constructor
  · intro h
    cases h
    exact ⟨rfl, rfl⟩
  · intro h
    rw [h.1, h.2]
    exact .lineEnd

theorem takes_bracket_iff :
    Takes (.bracket false set) text left ↔ ∃ c, set.Has c ∧ text = c :: left := by
  constructor
  · intro h
    cases h with
    | bracket _ h => exact ⟨_, h, rfl⟩
  · intro h
    obtain ⟨c, hc, he⟩ := h
    rw [he]
    exact .bracket left hc

theorem takes_nil_iff : Takes (.concat []) text left ↔ text = left := by
  constructor
  · intro h
    cases h
    rfl
  · intro h
    rw [h]
    exact .nil left

theorem takes_cons_iff :
    Takes (.concat (e :: es)) text left ↔
      ∃ middle, Takes e text middle ∧ Takes (.concat es) middle left := by
  constructor
  · intro h
    cases h with
    | cons h hrest => exact ⟨_, h, hrest⟩
  · intro h
    obtain ⟨middle, h, hrest⟩ := h
    exact .cons h hrest

theorem takes_append_iff :
    Takes (.concat (es ++ es')) text left ↔
      ∃ middle, Takes (.concat es) text middle ∧ Takes (.concat es') middle left := by
  induction es generalizing text with
  | nil => simp [takes_nil_iff]
  | cons e es ih =>
    simp only [List.cons_append, takes_cons_iff, ih]
    constructor
    · intro h
      obtain ⟨next, hfirst, middle, hes, hes'⟩ := h
      exact ⟨middle, ⟨next, hfirst, hes⟩, hes'⟩
    · intro h
      obtain ⟨middle, ⟨next, hfirst, hes⟩, hes'⟩ := h
      exact ⟨next, hfirst, middle, hes, hes'⟩

theorem takes_ofParts_iff : Takes (Expr.ofParts es) text left ↔ Takes (.concat es) text left := by
  unfold Expr.ofParts
  split
  next =>
    rw [takes_nil_iff]
    constructor
    · intro h
      cases h
      rfl
    · intro h
      rw [h]
      exact .empty left
  next e => simp [takes_cons_iff, takes_nil_iff]
  next => exact Iff.rfl

theorem takes_any_iff :
    Takes (.repetition (.bracket false set) 0 none) text left ↔
      ∃ part, (∀ c ∈ part, set.Has c) ∧ text = part ++ left := by
  constructor
  · intro h
    generalize hpattern : Expr.repetition (.bracket false set) 0 none = pattern at h
    induction h with
    | enough => exact ⟨[], List.forall_mem_nil _, rfl⟩
    | again _ hfirst _ _ ih =>
      cases hpattern
      obtain ⟨c, hc, he⟩ := takes_bracket_iff.mp hfirst
      obtain ⟨part, hpart, hmiddle⟩ := ih rfl
      exact ⟨c :: part, List.forall_mem_cons.mpr ⟨hc, hpart⟩, by rw [he, hmiddle]; rfl⟩
    | _ => cases hpattern
  · intro h
    obtain ⟨part, hpart, he⟩ := h
    subst he
    induction part with
    | nil => exact .enough _ _ _
    | cons c part ih =>
      obtain ⟨hc, hpart⟩ := List.forall_mem_cons.mp hpart
      exact .again (fun h => nomatch h) (.bracket _ hc) (ih hpart)

theorem takes_some_iff :
    Takes (.repetition (.bracket false set) 1 none) text left ↔
      ∃ part, part ≠ [] ∧ (∀ c ∈ part, set.Has c) ∧ text = part ++ left := by
  constructor
  · intro h
    cases h with
    | again _ hfirst hrest =>
      obtain ⟨c, hc, he⟩ := takes_bracket_iff.mp hfirst
      obtain ⟨part, hpart, hmiddle⟩ := takes_any_iff.mp hrest
      refine ⟨c :: part, List.cons_ne_nil _ _, List.forall_mem_cons.mpr ⟨hc, hpart⟩, ?_⟩
      rw [he, hmiddle]
      rfl
  · intro h
    obtain ⟨part, hne, hpart, he⟩ := h
    cases part with
    | nil => exact absurd rfl hne
    | cons c part =>
      obtain ⟨hc, hpart⟩ := List.forall_mem_cons.mp hpart
      subst he
      exact .again (fun h => nomatch h) (.bracket _ hc) (takes_any_iff.mpr ⟨part, hpart, rfl⟩)

end Rules

/-- A character that may stand for a part of a wildcard. -/
def isVaryingChar (c : Char) : Bool := c.isAlphanum || c == '@' || c == '#' || c == '$'

/-- The member has one or more such characters for each wildcard of the name. -/
inductive IsMember : List Char → List Char → Prop
  | nil : IsMember [] []
  | same {c : Char} {name member : List Char} (hc : c ≠ wildcard) (h : IsMember name member) :
    IsMember (c :: name) (c :: member)
  | varied {part name member : List Char} (hne : part ≠ [])
    (hpart : ∀ c ∈ part, isVaryingChar c = true) (h : IsMember name member) :
    IsMember (wildcard :: name) (part ++ member)

/-- The last character of the name is its only wildcard. -/
def EndsInWildcard (name : List Char) : Prop := ∃ stem, wildcard ∉ stem ∧ name = stem ++ [wildcard]

theorem exists_isMember (name : List Char) : ∃ member, IsMember name member := by
  induction name with
  | nil => exact ⟨[], .nil⟩
  | cons c name ih =>
    obtain ⟨member, hmember⟩ := ih
    by_cases hc : c = wildcard
    · subst hc
      have hpart : ∀ c ∈ ['a'], isVaryingChar c = true := by
        simp [isVaryingChar]
      exact ⟨['a'] ++ member, .varied (List.cons_ne_nil _ _) hpart hmember⟩
    · exact ⟨c :: member, .same hc hmember⟩

theorem IsMember.literals {stem name member : List Char} (hstem : wildcard ∉ stem)
    (h : IsMember name member) : IsMember (stem ++ name) (stem ++ member) := by
  induction stem with
  | nil => exact h
  | cons c stem ih =>
    rw [List.mem_cons, not_or] at hstem
    exact .same (Ne.symm hstem.1) (ih hstem.2)

theorem isMember_concat_iff {stem member : List Char} (hstem : wildcard ∉ stem) :
    IsMember (stem ++ [wildcard]) member ↔
      ∃ part, part ≠ [] ∧ (∀ c ∈ part, isVaryingChar c = true) ∧ member = stem ++ part := by
  constructor
  · intro h
    induction stem generalizing member with
    | nil =>
      cases h with
      | same hc => exact absurd rfl hc
      | varied hne hpart h =>
        cases h
        exact ⟨_, hne, hpart, List.append_nil _⟩
    | cons c stem ih =>
      rw [List.mem_cons, not_or] at hstem
      cases h with
      | same _ h =>
        obtain ⟨part, hne, hpart, he⟩ := ih hstem.2 h
        exact ⟨part, hne, hpart, congrArg (c :: ·) he⟩
      | varied => exact absurd rfl hstem.1
  · intro h
    obtain ⟨part, hne, hpart, he⟩ := h
    have hmember := (IsMember.varied hne hpart .nil).literals hstem
    rw [List.append_nil] at hmember
    rwa [he]

section Names

variable {name stem rest text left : List Char}

theorem has_familySet_iff {c : Char} : familySet.Has c ↔ isVaryingChar c = true := by
  have hranges : isVaryingChar c = true ↔ ('a' ≤ c ∧ c ≤ 'z') ∨ ('A' ≤ c ∧ c ≤ 'Z') ∨
      ('0' ≤ c ∧ c ≤ '9') ∨ c = '@' ∨ c = '#' ∨ c = '$' := by
    simp only [isVaryingChar, Char.isAlphanum, Char.isAlpha, Char.isLower, Char.isUpper,
      Char.isDigit, Char.le_def, Bool.or_eq_true, Bool.and_eq_true, decide_eq_true_eq, beq_iff_eq]
    grind
  rw [hranges]
  simp only [familySet, has_union_iff, List.exists_mem_cons_iff, List.not_mem_nil, has_range_iff,
    has_single_iff, false_and, exists_false, or_false]

theorem partsOfName_cons (c : Char) (name : List Char) :
    partsOfName (c :: name) = (partsOfChar c).reverse ++ partsOfName name := rfl

theorem partsOfChar_of_ne {c : Char} (hc : c ≠ wildcard) :
    partsOfChar c = [.atom (.literal ⟨c, false⟩)] := if_neg hc

theorem takes_literals_iff (hstem : wildcard ∉ stem) :
    Takes (.concat (partsOfName stem)) text left ↔ text = stem ++ left := by
  induction stem generalizing text with
  | nil => exact takes_nil_iff
  | cons c stem ih =>
    rw [List.mem_cons, not_or] at hstem
    rw [partsOfName_cons, partsOfChar_of_ne (Ne.symm hstem.1), List.reverse_singleton,
      List.singleton_append, takes_cons_iff]
    simp only [takes_literal_iff, ih hstem.2]
    simp

/-- The pattern of a wildcard takes a text to its end. -/
theorem takes_wildcard_iff :
    Takes (.concat (partsOfName (wildcard :: rest))) text left ↔
      (text ≠ [] ∧ ∀ c ∈ text, isVaryingChar c = true) ∧
        Takes (.concat (partsOfName rest)) [] left := by
  have hparts : partsOfName (wildcard :: rest) = .repetition (.bracket false familySet) 1 none ::
      .atom (.assertion .lineEnd) :: partsOfName rest := rfl
  rw [hparts]
  simp only [takes_cons_iff, takes_some_iff, takes_lineEnd_iff, has_familySet_iff]
  constructor
  · intro h
    obtain ⟨_, ⟨part, hne, hpart, he⟩, _, ⟨rfl, rfl⟩, hrest⟩ := h
    rw [List.append_nil] at he
    rw [he]
    exact ⟨⟨hne, hpart⟩, hrest⟩
  · intro h
    obtain ⟨⟨hne, htext⟩, hrest⟩ := h
    exact ⟨[], ⟨text, hne, htext, (List.append_nil text).symm⟩, [], ⟨rfl, rfl⟩, hrest⟩

theorem takes_nothing_iff : Takes (.concat (partsOfName name)) [] left ↔ name = [] ∧ left = [] := by
  cases name with
  | nil =>
    rw [show partsOfName [] = [] from rfl, takes_nil_iff]
    simp [eq_comm]
  | cons c name =>
    have hfalse : ¬Takes (.concat (partsOfName (c :: name))) [] left := by
      by_cases hc : c = wildcard
      · subst hc
        rw [takes_wildcard_iff]
        simp
      · rw [partsOfName_cons, partsOfChar_of_ne hc, List.reverse_singleton, List.singleton_append,
          takes_cons_iff]
        simp [takes_literal_iff]
    simp [hfalse]

theorem takes_partsOfName_iff (hstem : wildcard ∉ stem) :
    Takes (.concat (partsOfName (stem ++ wildcard :: rest))) text left ↔
      rest = [] ∧ left = [] ∧ IsMember (stem ++ [wildcard]) text := by
  have hsplit : partsOfName (stem ++ wildcard :: rest) =
      partsOfName stem ++ partsOfName (wildcard :: rest) := List.flatMap_append
  rw [hsplit, takes_append_iff, isMember_concat_iff hstem]
  simp only [takes_literals_iff hstem, takes_wildcard_iff, takes_nothing_iff]
  constructor
  · intro h
    obtain ⟨part, he, ⟨hne, hpart⟩, hrest, hleft⟩ := h
    exact ⟨hrest, hleft, part, hne, hpart, he⟩
  · intro h
    obtain ⟨hrest, hleft, part, hne, hpart, he⟩ := h
    exact ⟨part, he, ⟨hne, hpart⟩, hrest, hleft⟩

theorem endsInWildcard_iff (hstem : wildcard ∉ stem) :
    EndsInWildcard (stem ++ wildcard :: rest) ↔ rest = [] := by
  constructor
  · intro h
    obtain ⟨other, hother, he⟩ := h
    have hsame : stem = other := KeyMap.eq_of_append_cons_eq hstem hother he
    rw [hsame, List.append_cancel_left_eq] at he
    exact (List.cons.inj he).2
  · intro h
    rw [h]
    exact ⟨stem, hstem, rfl⟩

theorem matches_patternName_iff (hname : ∀ c ∈ name, isDeclaredChar c = true)
    (hw : wildcard ∈ name) :
    Matches (patternName name) text ↔
      EndsInWildcard name ∧ ∃ front member, IsMember name member ∧ text = front ++ member := by
  obtain ⟨stem, rest, rfl, hstem⟩ := List.eq_append_cons_of_mem hw
  rw [endsInWildcard_iff hstem]
  simp only [Matches, parse?_patternName hname, Option.some.injEq, exists_eq_left',
    takes_ofParts_iff, takes_partsOfName_iff hstem]
  constructor
  · intro h
    obtain ⟨front, member, _, he, rfl, rfl, hmember⟩ := h
    exact ⟨rfl, front, member, hmember, he⟩
  · intro h
    obtain ⟨rfl, front, member, hmember, he⟩ := h
    exact ⟨front, member, [], he, rfl, rfl, hmember⟩

/-- The pattern of a declared name with wildcards matches all members of the family if and only if
the only wildcard is the last character of the name. It then matches the texts that end in a member,
and otherwise no text. -/
theorem pattern_finds_members (hname : ∀ c ∈ name, isDeclaredChar c = true) (hw : wildcard ∈ name) :
    ((∀ member, IsMember name member → Matches (patternName name) member) ↔
      EndsInWildcard name) ∧
    ∀ text, Matches (patternName name) text ↔
      EndsInWildcard name ∧ ∃ front member, IsMember name member ∧ text = front ++ member := by
  refine ⟨⟨?_, ?_⟩, fun text => matches_patternName_iff hname hw⟩
  · intro h
    obtain ⟨member, hmember⟩ := exists_isMember name
    exact ((matches_patternName_iff hname hw).mp (h member hmember)).1
  · intro hend member hmember
    exact (matches_patternName_iff hname hw).mpr ⟨hend, [], member, hmember, rfl⟩

theorem pattern_finds_members_flags :
    let name := "base:auditflags*".toList
    (∀ c ∈ name, isDeclaredChar c = true) ∧ wildcard ∈ name ∧
      Matches (patternName name) "base:auditflagsX@1".toList ∧
      ¬Matches (patternName name) "base:auditflags".toList := by
  intro name
  have hname : ∀ c ∈ name, isDeclaredChar c = true := by simp [name, isDeclaredChar_iff]
  have hw : wildcard ∈ name := by simp [name, wildcard]
  have hstem : wildcard ∉ "base:auditflags".toList := by simp [wildcard]
  have hpart : ∀ c ∈ "X@1".toList, isVaryingChar c = true := by simp [isVaryingChar]
  obtain ⟨hall, htexts⟩ := pattern_finds_members hname hw
  refine ⟨hname, hw, ?_, ?_⟩
  · apply hall.mpr ⟨_, hstem, rfl⟩
    exact (isMember_concat_iff hstem).mpr ⟨_, List.cons_ne_nil _ _, hpart, rfl⟩
  · intro h
    obtain ⟨-, front, member, hmember, he⟩ := (htexts _).mp h
    obtain ⟨part, hne, -, rfl⟩ := (isMember_concat_iff hstem).mp hmember
    have hlength := congrArg List.length he
    simp only [List.length_append] at hlength
    have hpos := List.length_pos_iff.mpr hne
    omega

/-- A pattern in which the end of the text stands before the rest of the name misses the members. -/
theorem pattern_misses_members :
    let text := "\x7b\"base:audit*flags\", \"audit\",
      TRAIT_TYPE_STRING, \x7btrue, false, false, true\x7d\x7d,\n"
    ∃ d ∈ KeyMap.records "BASE" text.toList, ∃ member,
      IsMember d.name.toList member ∧ ¬Matches d.propertyName.toList member := by
  intro text
  let stem := "base:audit".toList
  let ending := "flags".toList
  let d : Declaration := ⟨"base", String.ofList (stem ++ wildcard :: ending), "audit", ⟨"STRING"⟩,
    ⟨true, false, false, true⟩⟩
  have hrecords : KeyMap.records "BASE" text.toList = [d] := by decide +kernel
  have hname : d.name.toList = stem ++ wildcard :: ending := String.toList_ofList
  have hproperty : d.propertyName.toList = patternName (stem ++ wildcard :: ending) := by
    rw [Declaration.propertyName, String.toList_ofList, hname]
  have hdeclared : ∀ c ∈ stem ++ wildcard :: ending, isDeclaredChar c = true := by
    simp [stem, ending, wildcard, isDeclaredChar_iff]
  have hstem : wildcard ∉ stem := by simp [stem, wildcard]
  have hending : wildcard ∉ ending := by simp [ending, wildcard]
  have hvaried : ∀ c ∈ ['x'], isVaryingChar c = true := by simp [isVaryingChar]
  refine ⟨d, ?_, stem ++ (['x'] ++ ending), ?_, ?_⟩
  · rw [hrecords]
    exact List.mem_singleton_self d
  · rw [hname]
    have hrest := IsMember.nil.literals hending
    rw [List.append_nil] at hrest
    exact (IsMember.varied (List.cons_ne_nil _ _) hvaried hrest).literals hstem
  · rw [hproperty, matches_patternName_iff hdeclared (by simp), endsInWildcard_iff hstem]
    intro h
    exact List.cons_ne_nil _ _ h.1

end Names

end TraitSchema.Pattern
