import TraitSchema.Proofs.RecordReaders

namespace TraitSchema.KeyMap

/-- Four flags in braces, with white space of any kind after the commas. -/
structure FlagsText where
  operators : OperatorSet
  beforeAdd : List Char
  beforeRemove : List Char
  beforeDelete : List Char
  add_spaced : ∀ c ∈ beforeAdd, Text.isSpace c = true
  remove_spaced : ∀ c ∈ beforeRemove, Text.isSpace c = true
  delete_spaced : ∀ c ∈ beforeDelete, Text.isSpace c = true

/-- A tag and the comma after it, and flags later on the line of that comma. -/
structure TaggedText where
  tag : List Char
  beforeFlags : List Char
  flags : FlagsText
  tag_ne_nil : tag ≠ []
  tag_chars : ∀ c ∈ tag, isTagChar c = true
  sameLine : '\n' ∉ beforeFlags

/-- What may stand between the comma after a key and the tag: a part of the line or, where nothing
but blanks ends the line, a part of the next one. -/
def LeadsToTag (gap : List Char) : Prop :=
  '\n' ∉ gap ∨ ∃ blanks onNext, gap = blanks ++ '\n' :: onNext ∧
    (∀ c ∈ blanks, Text.isBlank c = true) ∧ '\n' ∉ onNext

/-- A key in quotes and the comma after it, and a tag with its flags. -/
structure KeyedText where
  key : List Char
  beforeTag : List Char
  tagged : TaggedText
  key_chars : ∀ c ∈ key, isKeyChar c = true
  leadsToTag : LeadsToTag beforeTag

/-- A record: the part of its name after the segment, and its key later on the same line. -/
structure RecordText where
  suffix : List Char
  beforeKey : List Char
  keyed : KeyedText
  suffix_chars : ∀ c ∈ suffix, isNameChar c = true
  sameLine : '\n' ∉ beforeKey

def FlagsText.chars (f : FlagsText) : List Char :=
  '\x7b' :: flagText f.operators.set ++ ',' :: f.beforeAdd ++ flagText f.operators.add ++
    ',' :: f.beforeRemove ++ flagText f.operators.remove ++
    ',' :: f.beforeDelete ++ flagText f.operators.delete ++ ['\x7d']

def TaggedText.chars (t : TaggedText) : List Char :=
  "TRAIT_TYPE_".toList ++ t.tag ++ ',' :: t.beforeFlags ++ t.flags.chars

def KeyedText.chars (k : KeyedText) : List Char :=
  '"' :: k.key ++ '"' :: ',' :: k.beforeTag ++ k.tagged.chars

namespace RecordText

def chars (segment : List Char) (r : RecordText) : List Char :=
  '"' :: segment ++ ':' :: r.suffix ++ '"' :: ',' :: r.beforeKey ++ r.keyed.chars

def declaration (segment : List Char) (r : RecordText) : Declaration where
  segment := String.ofList segment
  name := String.ofList (segment ++ ':' :: r.suffix)
  key := String.ofList r.keyed.key
  tag := ⟨String.ofList r.keyed.tagged.tag⟩
  operators := r.keyed.tagged.flags.operators

end RecordText

/-- The flags of the first text do not open before those of the second one. -/
def TaggedText.Preferred (t other : TaggedText) : Prop :=
  other.beforeFlags.length ≤ t.beforeFlags.length

/-- The tag of the first text is not later than that of the second one; at the same place, what is
preferred after it decides. -/
def KeyedText.Preferred (k other : KeyedText) : Prop :=
  k.beforeTag.length ≤ other.beforeTag.length ∧
    (k.beforeTag.length = other.beforeTag.length → k.tagged.Preferred other.tagged)

/-- The key of the first record is not earlier than that of the second one; at the same place, what
is preferred after it decides. -/
def RecordText.Preferred (r other : RecordText) : Prop :=
  other.beforeKey.length ≤ r.beforeKey.length ∧
    (r.beforeKey.length = other.beforeKey.length → r.keyed.Preferred other.keyed)

def StartsRecord (segment text : List Char) : Prop := ∃ r : RecordText, r.chars segment <+: text

/-- The record starts the text and is preferred to every record that does. -/
structure RecordText.Chosen (segment text : List Char) (r : RecordText) : Prop where
  starts : r.chars segment <+: text
  preferred : ∀ other : RecordText, other.chars segment <+: text → r.Preferred other

/-- The declarations of the records that are taken from the place `start` of the text on: each
record at the least place after the end of the one before at which a record starts. -/
inductive Taken (segment text : List Char) : Nat → List Declaration → Prop
  | none {start : Nat} (h : ∀ p, start ≤ p → ¬ StartsRecord segment (text.drop p)) :
    Taken segment text start []
  | next {start p : Nat} {r : RecordText} {ds : List Declaration} (hp : start ≤ p)
    (hleast : ∀ q, start ≤ q → q < p → ¬ StartsRecord segment (text.drop q))
    (hr : r.Chosen segment (text.drop p))
    (hds : Taken segment text (p + (r.chars segment).length) ds) :
    Taken segment text start (r.declaration segment :: ds)

end TraitSchema.KeyMap
