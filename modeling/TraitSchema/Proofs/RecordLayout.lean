import TraitSchema.Proofs.RecordReaders

namespace TraitSchema.KeyMap

open Text (NeverStarts)

/-- What stands between a key and its tag: a space, or the end of the line and blanks. -/
inductive Spacing where
  | sameLine
  | nextLine (blanks : List Char) (blank : ∀ c ∈ blanks, c = ' ' ∨ c = '\t')

/-- A declaration to be laid out, with any number of flags, and the lines in front of it. -/
structure Item where
  lead : List Char
  segment : List Char
  suffix : List Char
  key : List Char
  spacing : Spacing
  tag : List Char
  flags : List Bool
  lead_unquoted : '"' ∉ lead
  segment_lower : ∀ c ∈ segment, c.isLower = true
  suffix_name : ∀ c ∈ suffix, c.isLower = true ∨ c.isDigit = true ∨ c = '_' ∨ c = '*'
  key_name : ∀ c ∈ key, c.isLower = true ∨ c.isDigit = true ∨ c = '_'
  tag_upper : ∀ c ∈ tag, c.isUpper = true ∨ c = '_'
  tag_ne : tag ≠ []

def Spacing.text : Spacing → List Char
  | .sameLine => [' ']
  | .nextLine blanks _ => '\n' :: blanks

def flagsText (flags : List Bool) : List Char := [',', ' '].intercalate (flags.map flagText)

namespace Item

/-- The declared name, the segment included. -/
def name (i : Item) : List Char := i.segment ++ ':' :: i.suffix

def tagText (i : Item) : List Char := "TRAIT_TYPE_".toList ++ i.tag ++ ", ".toList

def text (i : Item) : List Char :=
  i.lead ++ "\x7b\"".toList ++ i.name ++ "\", \"".toList ++ i.key ++ "\",".toList ++
    i.spacing.text ++ i.tagText ++ "\x7b".toList ++ flagsText i.flags ++ "\x7d\x7d\n".toList

end Item

theorem flagsText_cons_cons (a b : Bool) (flags : List Bool) :
    flagsText (a :: b :: flags) = flagText a ++ ',' :: ' ' :: flagsText (b :: flags) := by
  simp [flagsText, List.intercalate]

theorem flagsText_singleton (a : Bool) : flagsText [a] = flagText a := by
  simp [flagsText, List.intercalate]

theorem flags?_four (a b c d : Bool) (rest : List Char) :
    flags? ('\x7b' :: flagsText [a, b, c, d] ++ '\x7d' :: rest) = some (⟨a, b, c, d⟩, rest) := by
  simp only [flags?, flagsText_cons_cons, flagsText_singleton, List.append_assoc, List.cons_append,
    flag?_written, nextFlag?_written, Option.bind_eq_bind, Option.bind_some]

theorem not_mem_flagsText {c : Char} (h : c ∉ "truefals, ".toList) (flags : List Bool) :
    c ∉ flagsText flags := by
  have one : ∀ b, c ∉ flagText b := by
    intro b hm
    apply h
    cases b <;> (simp [flagText] at hm; rcases hm with rfl | rfl | rfl | rfl | rfl <;> decide)
  match flags with
  | [] => simp [flagsText, List.intercalate]
  | [a] => exact flagsText_singleton a ▸ one a
  | a :: b :: flags =>
    have ih := not_mem_flagsText h (b :: flags)
    rw [flagsText_cons_cons]
    simp only [List.mem_append, List.mem_cons, not_or]
    exact ⟨one a, by rintro rfl; exact h (by decide), by rintro rfl; exact h (by decide), ih⟩

namespace Item

/-- The part of an item from its flags on, in front of other text. -/
def flagsPart (i : Item) (rest : List Char) : List Char :=
  '\x7b' :: flagsText i.flags ++ '\x7d' :: '\x7d' :: '\n' :: rest

/-- The part of an item from its key on, in front of other text. -/
def keyPart (i : Item) (rest : List Char) : List Char :=
  '"' :: i.key ++ '"' :: ',' :: (i.spacing.text ++ (i.tagText ++ i.flagsPart rest))

theorem text_append (i : Item) (rest : List Char) :
    i.text ++ rest =
      (i.lead ++ ['\x7b']) ++ '"' :: (i.name ++ '"' :: ',' :: ' ' :: i.keyPart rest) := by
  simp [text, keyPart, flagsPart]

end Item

end TraitSchema.KeyMap
