import TraitSchema.AdminType
import TraitSchema.Proofs.Letters

namespace TraitSchema

namespace Text

def isSmallOrDigit (c : Char) : Bool := c.isLower || c.isDigit

/-- A word of a name: a small letter, then small letters and digits. -/
structure NameWord where
  first : Char
  rest : List Char
  first_isLower : first.isLower = true
  rest_chars : ∀ c ∈ rest, isSmallOrDigit c = true

namespace NameWord

def text (w : NameWord) : List Char := w.first :: w.rest

def raised (w : NameWord) : List Char := w.first.toUpper :: w.rest

end NameWord

/-- The words with single underscores between them. -/
def joined (words : List NameWord) : List Char := ['_'].intercalate (words.map NameWord.text)

/-- Each capital letter becomes an underscore and the small letter. -/
def separated (text : List Char) : List Char :=
  text.flatMap fun c => if c.isUpper then ['_', c.toLower] else [c]

theorem ne_underscore_of_isSmallOrDigit {c : Char} (h : isSmallOrDigit c = true) : c ≠ '_' := by
  rintro rfl
  exact absurd h (by decide)

section Characters

variable {c : Char} (hname : isSmallOrDigit c = true ∨ c = '_')
include hname

theorem toNat_of_nameChar : 48 ≤ c.toNat ∧ c.toNat ≤ 57 ∨ 95 ≤ c.toNat ∧ c.toNat ≤ 122 := by
  rcases hname with h | rfl
  · simp only [isSmallOrDigit, Char.isLower, Char.isDigit, Bool.or_eq_true, Bool.and_eq_true,
      decide_eq_true_eq] at h
    have hcode : 97 ≤ c.toNat ∧ c.toNat ≤ 122 ∨ 48 ≤ c.toNat ∧ c.toNat ≤ 57 := h
    omega
  · decide

theorem isAscii_of_nameChar : isAscii c = true := by
  have hcode := toNat_of_nameChar hname
  simp only [isAscii, decide_eq_true_eq]
  omega

theorem isUpper_of_nameChar : c.isUpper = false := by
  have hcode := toNat_of_nameChar hname
  have hcapital : ¬ (65 ≤ c.toNat ∧ c.toNat ≤ 90) := by omega
  simpa only [Char.isUpper, Bool.and_eq_false_iff, decide_eq_false_iff_not, ← not_and_or]

theorem isSpace_of_nameChar : isSpace c = false := by
  have hcode := toNat_of_nameChar hname
  simp only [isSpace, inRanges, spaceRanges, List.any_cons, List.any_nil, Bool.or_eq_false_iff,
    Bool.and_eq_false_iff, decide_eq_false_iff_not, and_true]
  omega

end Characters

namespace NameWord

variable (w : NameWord)

theorem isSmallOrDigit_of_mem {c : Char} (h : c ∈ w.text) : isSmallOrDigit c = true := by
  rcases List.mem_cons.mp h with rfl | h
  · rw [isSmallOrDigit, w.first_isLower, Bool.true_or]
  · exact w.rest_chars c h

theorem isUpper_toUpper_first : w.first.toUpper.isUpper = true := by
  rw [Char.isUpper_toUpper_eq_isAlpha, Char.isAlpha, w.first_isLower, Bool.or_true]

theorem toLower_toUpper_first : w.first.toUpper.toLower = w.first := by
  rw [Char.toLower_toUpper_eq_toLower]
  exact Char.toLower_eq_of_not_isUpper (Char.not_isUpper_of_isLower w.first_isLower)

end NameWord

section Words

variable (w : NameWord) (words : List NameWord)

theorem joined_cons : joined (w :: words) = w.text ++ words.flatMap fun v => '_' :: v.text := by
  induction words generalizing w with
  | nil =>
    rw [joined, List.map_singleton, List.intercalate_singleton, List.flatMap_nil, List.append_nil]
  | cons v words ih =>
    have hrest : ['_'].intercalate (v.text :: words.map NameWord.text) =
        v.text ++ words.flatMap fun v => '_' :: v.text := ih v
    rw [joined, List.map_cons, List.map_cons, List.intercalate_cons_cons, hrest, List.flatMap_cons,
      List.append_assoc]
    rfl

theorem nameChar_of_mem_joined {c : Char} (h : c ∈ joined (w :: words)) :
    isSmallOrDigit c = true ∨ c = '_' := by
  rw [joined_cons, List.mem_append, List.mem_flatMap] at h
  rcases h with h | ⟨v, -, h⟩
  · exact .inl (w.isSmallOrDigit_of_mem h)
  · rcases List.mem_cons.mp h with rfl | h
    · exact .inr rfl
    · exact .inl (v.isSmallOrDigit_of_mem h)

theorem lower_joined : lower (joined (w :: words)) = joined (w :: words) := by
  rw [lower, lowerAfter_of_ascii fun c hc =>
    isAscii_of_nameChar (nameChar_of_mem_joined w words hc)]
  refine (List.map_congr_left fun c hc => ?_).trans (List.map_id _)
  have hsmall := isUpper_of_nameChar (nameChar_of_mem_joined w words hc)
  exact Char.toLower_eq_of_not_isUpper (by simp [hsmall])

theorem trim_joined : trim (joined (w :: words)) = joined (w :: words) := by
  -- the characters are those of a name from either end
  have hkept : ∀ text : List Char, (∀ c ∈ text, c ∈ joined (w :: words)) →
      text.dropWhile isSpace = text := by
    intro text htext
    cases text with
    | nil => rfl
    | cons c text =>
      have hname := nameChar_of_mem_joined w words (htext c List.mem_cons_self)
      exact List.dropWhile_cons_of_neg (by simp [isSpace_of_nameChar hname])
  rw [trim, hkept _ fun c hc => hc, hkept _ fun c hc => List.mem_reverse.mp hc,
    List.reverse_reverse]

theorem raiseWords_append {front : List Char} (h : ∀ c ∈ front, isSmallOrDigit c = true)
    (rest : List Char) : raiseWords false (front ++ rest) = front ++ raiseWords false rest := by
  induction front with
  | nil => rfl
  | cons c front ih =>
    obtain ⟨hc, hfront⟩ := List.forall_mem_cons.mp h
    rw [List.cons_append, raiseWords, if_neg (ne_underscore_of_isSmallOrDigit hc), ih hfront]
    rfl

theorem raiseWords_text (rest : List Char) :
    raiseWords true (w.text ++ rest) = w.raised ++ raiseWords false rest := by
  have hfirst : isSmallOrDigit w.first = true := w.isSmallOrDigit_of_mem List.mem_cons_self
  have hcapital : upperChar w.first = [w.first.toUpper] := by
    rw [upperChar, if_pos (isAscii_of_nameChar (.inl hfirst))]
  rw [NameWord.text, List.cons_append, raiseWords, if_neg (ne_underscore_of_isSmallOrDigit hfirst),
    if_pos rfl, hcapital, raiseWords_append w.rest_chars]
  rfl

theorem raiseWords_flatMap :
    raiseWords false (words.flatMap fun v => '_' :: v.text) = words.flatMap NameWord.raised := by
  induction words with
  | nil => rfl
  | cons v words ih =>
    rw [List.flatMap_cons, List.cons_append, raiseWords, if_pos rfl, raiseWords_text, ih,
      List.flatMap_cons]

/-- The first word of a name stays in camel case, and all others get a capital letter. -/
theorem camelCase_joined :
    camelCase (joined (w :: words)) = w.text ++ words.flatMap NameWord.raised := by
  have hpascal : pascalCase (joined (w :: words)) =
      w.first.toUpper :: (w.rest ++ words.flatMap NameWord.raised) := by
    rw [pascalCase, lower_joined, joined_cons, raiseWords_text, raiseWords_flatMap]
    rfl
  have hletter : w.first.toUpper.isAlpha = true := by
    rw [Char.isAlpha, w.isUpper_toUpper_first, Bool.true_or]
  have hsmall : lowerChar w.first.toUpper = [w.first] := by
    rw [lowerChar, if_pos (isAscii_of_isAlpha hletter), w.toLower_toUpper_first]
  rw [camelCase, hpascal]
  exact congrArg (· ++ _) hsmall

theorem separated_append (front rest : List Char) :
    separated (front ++ rest) = separated front ++ separated rest :=
  List.flatMap_append

theorem separated_of_chars {text : List Char} (h : ∀ c ∈ text, isSmallOrDigit c = true) :
    separated text = text := by
  induction text with
  | nil => rfl
  | cons c text ih =>
    obtain ⟨hc, htext⟩ := List.forall_mem_cons.mp h
    have hsmall : ¬ c.isUpper = true := by simp [isUpper_of_nameChar (.inl hc)]
    rw [separated, List.flatMap_cons, if_neg hsmall, ← separated, ih htext]
    rfl

theorem separated_raised : separated w.raised = '_' :: w.text := by
  rw [NameWord.raised, separated, List.flatMap_cons, if_pos w.isUpper_toUpper_first,
    w.toLower_toUpper_first, ← separated, separated_of_chars w.rest_chars]
  rfl

theorem separated_flatMap :
    separated (words.flatMap NameWord.raised) = words.flatMap fun v => '_' :: v.text := by
  induction words with
  | nil => rfl
  | cons v words ih =>
    rw [List.flatMap_cons, separated_append, separated_raised, ih, List.flatMap_cons]

/-- Camel case loses nothing of a name that is made of words. -/
theorem separated_camelCase :
    separated (camelCase (joined (w :: words))) = joined (w :: words) := by
  rw [camelCase_joined, separated_append, separated_flatMap, joined_cons,
    separated_of_chars fun _ => w.isSmallOrDigit_of_mem]

end Words

end Text

namespace AdminType

/-- The name is one or more words joined by single underscores. -/
def IsWellNamed (t : AdminType) : Prop :=
  ∃ words : List Text.NameWord, words ≠ [] ∧ t.name.toList = Text.joined words

variable {t : AdminType}

theorem IsWellNamed.exists_words (h : t.IsWellNamed) :
    ∃ w words, t.name.toList = Text.joined (w :: words) := by
  obtain ⟨words, hne, hname⟩ := h
  obtain ⟨w, words, rfl⟩ := List.exists_cons_of_ne_nil hne
  exact ⟨w, words, hname⟩

theorem IsWellNamed.ofText_name (h : t.IsWellNamed) : ofText t.name = t := by
  obtain ⟨w, words, hname⟩ := h.exists_words
  have hplain : ∀ c ∈ Text.joined (w :: words), (if c = ' ' then '_' else c) = c := by
    intro c hc
    refine if_neg ?_
    rintro rfl
    exact absurd (Text.isSpace_of_nameChar (Text.nameChar_of_mem_joined w words hc)) (by decide)
  have hchars : String.ofList (Text.joined (w :: words)) = t.name := by
    rw [← hname, String.ofList_toList]
  rw [ofText, hname, Text.trim_joined, Text.lower_joined,
    (List.map_congr_left hplain).trans (List.map_id _), hchars]

theorem IsWellNamed.camelName_ne_empty (h : t.IsWellNamed) : t.camelName ≠ "" := by
  obtain ⟨w, words, hname⟩ := h.exists_words
  intro he
  have hchars := congrArg String.toList he
  rw [camelName, String.toList_ofList, hname, Text.camelCase_joined] at hchars
  exact List.cons_ne_nil _ _ hchars

theorem IsWellNamed.separated_camelName (h : t.IsWellNamed) :
    Text.separated t.camelName.toList = t.name.toList := by
  obtain ⟨w, words, hname⟩ := h.exists_words
  rw [camelName, String.toList_ofList, hname, Text.separated_camelCase]

/-- Well-named admin types are told apart by their names in camel case. -/
theorem camelName_injOn : Set.InjOn camelName {t | t.IsWellNamed} := by
  intro t ht u hu h
  have hname : t.name.toList = u.name.toList := by
    rw [← IsWellNamed.separated_camelName ht, h, IsWellNamed.separated_camelName hu]
  obtain ⟨name⟩ := t
  obtain ⟨other⟩ := u
  exact congrArg mk (String.toList_inj.mp hname)

/-- A digit after an underscore, a second underscore and one in front do not show. -/
example : camelName ⟨"user_1"⟩ = camelName ⟨"user1"⟩ ∧
    camelName ⟨"user__group"⟩ = camelName ⟨"user_group"⟩ ∧
    camelName ⟨"_user"⟩ = camelName ⟨"user"⟩ := by
  decide +kernel

end AdminType

end TraitSchema
