import TraitSchema.Proofs.RecordLayout
import TraitSchema.Proofs.RecordReadings

namespace TraitSchema.KeyMap

open Text (NeverStarts)

/-- How the lines of a text end. -/
inductive LineEnd where
  | lf
  | crlf
deriving DecidableEq

/-- What a declaration of a segment says, however it is laid out. -/
structure Wording where
  suffix : List Char
  key : List Char
  tag : List Char
  operators : OperatorSet
  suffix_name : ∀ c ∈ suffix, isNameChar c = true
  key_name : ∀ c ∈ key, isKeyChar c = true
  tag_letters : ∀ c ∈ tag, isTagChar c = true
  tag_ne : tag ≠ []

/-- A declaration, and what stands after its key and after all of it. -/
structure LaidOut where
  wording : Wording
  afterKey : Spacing
  afterAll : Spacing

def LineEnd.text : LineEnd → List Char
  | .lf => ['\n']
  | .crlf => ['\r', '\n']

def Spacing.breaks : Spacing → Bool
  | .sameLine => false
  | .nextLine _ _ => true

/-- What is found behind a spacing on the same line, if that is anything. -/
def Spacing.onLine {α : Type} : Spacing → Option α → Option α
  | .sameLine, found => found
  | .nextLine _ _, _ => none

/-- The characters of a spacing in a text with such line ends. -/
def Spacing.written (e : LineEnd) : Spacing → List Char
  | .sameLine => [' ']
  | .nextLine blanks _ => e.text ++ blanks

namespace Wording

def name (segment : List Char) (w : Wording) : List Char := segment ++ ':' :: w.suffix

def tagText (w : Wording) : List Char := "TRAIT_TYPE_".toList ++ w.tag ++ ", ".toList

def flagsText (w : Wording) : List Char :=
  KeyMap.flagsText [w.operators.set, w.operators.add, w.operators.remove, w.operators.delete]

def declaration (segment : List Char) (w : Wording) : Declaration where
  segment := String.ofList segment
  name := String.ofList (w.name segment)
  key := String.ofList w.key
  tag := ⟨String.ofList w.tag⟩
  operators := w.operators

end Wording

def LaidOut.text (e : LineEnd) (segment : List Char) (x : LaidOut) : List Char :=
  "\x7b\"".toList ++ x.wording.name segment ++ "\", \"".toList ++ x.wording.key ++ "\",".toList ++
    x.afterKey.written e ++ x.wording.tagText ++ "\x7b".toList ++ x.wording.flagsText ++
    "\x7d\x7d,".toList ++ x.afterAll.written e

def layoutText (e : LineEnd) (segment : List Char) (xs : List LaidOut) : List Char :=
  xs.flatMap (LaidOut.text e segment)

namespace LaidOut

/-- What is left of a declaration behind its flags, in front of other text. -/
def endPart (e : LineEnd) (x : LaidOut) (rest : List Char) : List Char :=
  '\x7d' :: ',' :: (x.afterAll.written e ++ rest)

def flagsPart (e : LineEnd) (x : LaidOut) (rest : List Char) : List Char :=
  '\x7b' :: (x.wording.flagsText ++ '\x7d' :: x.endPart e rest)

def tagPart (e : LineEnd) (x : LaidOut) (rest : List Char) : List Char :=
  x.wording.tagText ++ x.flagsPart e rest

def keyPart (e : LineEnd) (x : LaidOut) (rest : List Char) : List Char :=
  '"' :: (x.wording.key ++ '"' :: ',' :: (x.afterKey.written e ++ x.tagPart e rest))

def namePart (e : LineEnd) (segment : List Char) (x : LaidOut) (rest : List Char) : List Char :=
  '"' :: (x.wording.name segment ++ '"' :: ',' :: ' ' :: x.keyPart e rest)

end LaidOut

section Text

variable {e : LineEnd} {segment : List Char}

theorem LaidOut.text_append (x : LaidOut) (rest : List Char) :
    x.text e segment ++ rest = '\x7b' :: x.namePart e segment rest := by
  unfold LaidOut.text namePart keyPart tagPart flagsPart endPart
  simp only [String.reduceToList, List.append_assoc, List.cons_append, List.nil_append]

theorem layoutText_cons (x : LaidOut) (xs : List LaidOut) :
    layoutText e segment (x :: xs) = '\x7b' :: x.namePart e segment (layoutText e segment xs) := by
  unfold layoutText
  rw [List.flatMap_cons, LaidOut.text_append]

/-- The characters that begin a part of a record or end a line. -/
def isMark (c : Char) : Bool := c == '"' || c == '\x7b' || c == '\n'

/-- The text has no mark. -/
def Plain (xs : List Char) : Prop := xs.any isMark = false

instance (xs : List Char) : Decidable (Plain xs) :=
  inferInstanceAs (Decidable (xs.any isMark = false))

theorem plain_of_forall {p : Char → Bool} {xs : List Char} (h : ∀ c ∈ xs, p c = true)
    (hp : p '"' = false ∧ p '\x7b' = false ∧ p '\n' = false) : Plain xs := by
  obtain ⟨hquote, hbrace, hline⟩ := hp
  refine List.any_eq_false.mpr fun c hc => ?_
  have hc := h c hc
  simp only [isMark, Bool.or_eq_true, beq_iff_eq, not_or]
  refine ⟨⟨?_, ?_⟩, ?_⟩ <;> rintro rfl <;> simp_all

namespace Plain

variable {xs ys : List Char}

theorem not_mem {c : Char} (hx : Plain xs) (hc : isMark c = true) : c ∉ xs := fun hm =>
  List.any_eq_false.mp hx c hm hc

theorem quote (hx : Plain xs) : '"' ∉ xs := hx.not_mem (by decide)

theorem brace (hx : Plain xs) : '\x7b' ∉ xs := hx.not_mem (by decide)

theorem line (hx : Plain xs) : '\n' ∉ xs := hx.not_mem (by decide)

theorem nil : Plain [] := rfl

theorem append (hx : Plain xs) (hy : Plain ys) : Plain (xs ++ ys) := by
  rw [Plain, List.any_append, hx, hy, Bool.or_false]

theorem cons {c : Char} (hc : isMark c = false) (hx : Plain xs) : Plain (c :: xs) := by
  rw [Plain, List.any_cons, hc, hx, Bool.or_false]

end Plain

namespace Wording

variable (w : Wording)

theorem plain_key : Plain w.key := plain_of_forall w.key_name (by decide)

theorem plain_name (hs : Plain segment) : Plain (w.name segment) :=
  hs.append (.cons (by decide) (plain_of_forall w.suffix_name (by decide)))

theorem plain_tagText : Plain w.tagText :=
  have mark : Plain "TRAIT_TYPE_".toList := by decide
  have comma : Plain ", ".toList := by decide
  (mark.append (plain_of_forall w.tag_letters (by decide))).append comma

theorem plain_flagsText : Plain w.flagsText := by
  refine List.any_eq_false.mpr fun c hc hm => not_mem_flagsText ?_ _ hc
  simp only [isMark, Bool.or_eq_true, beq_iff_eq] at hm
  obtain (rfl | rfl) | rfl := hm <;> decide

end Wording

/-- What the reader reads begins with a quote or with a brace. -/
structure OpensWith {α : Type} (f : List Char → Option α) (mark : Char) : Prop where
  never : ∀ c, c ≠ mark → NeverStarts f c
  mark_eq : mark = '"' ∨ mark = '\x7b'

theorem flags_opensWith : OpensWith flags? '\x7b' := ⟨fun _ => flags_neverStarts, .inr rfl⟩

theorem keyed_opensWith : OpensWith keyed? '"' := ⟨fun _ => keyed_neverStarts, .inl rfl⟩

section Line

variable {α : Type} {f : List Char → Option α} {mark : Char}

theorem lastOnLine_cons {c : Char} (hc : c ≠ '\n') (rest : List Char) :
    Text.lastOnLine f (c :: rest) = (Text.lastOnLine f rest).or (f (c :: rest)) := by
  rw [Text.lastOnLine, if_neg hc]
  cases Text.lastOnLine f rest <;> rfl

theorem OpensWith.plain (hf : OpensWith f mark) {xs : List Char} (hx : Plain xs)
    (rest : List Char) : Text.lastOnLine f (xs ++ rest) = Text.lastOnLine f rest := by
  have hmark : mark ∉ xs := by
    rcases hf.mark_eq with rfl | rfl
    · exact hx.quote
    · exact hx.brace
  exact Text.lastOnLine_append hx.line
    (fun c hc => hf.never c (ne_of_mem_of_not_mem hc hmark)) rest

theorem OpensWith.cons (hf : OpensWith f mark) {c : Char} (hc : isMark c = false)
    (rest : List Char) : Text.lastOnLine f (c :: rest) = Text.lastOnLine f rest :=
  hf.plain (.cons hc .nil) rest

theorem OpensWith.written (hf : OpensWith f mark) (s : Spacing) (rest : List Char) :
    Text.lastOnLine f (s.written e ++ rest) = s.onLine (Text.lastOnLine f rest) := by
  cases s with
  | sameLine => exact hf.cons (by decide) rest
  | nextLine blanks _ =>
    cases e with
    | lf => rfl
    | crlf => exact hf.cons (by decide) ('\n' :: (blanks ++ rest))

theorem OpensWith.endPart (hf : OpensWith f mark) (x : LaidOut) (rest : List Char) :
    Text.lastOnLine f ('\x7d' :: x.endPart e rest) =
      x.afterAll.onLine (Text.lastOnLine f rest) := by
  unfold LaidOut.endPart
  rw [hf.cons (by decide), hf.cons (by decide), hf.cons (by decide), hf.written]

theorem Spacing.onLine_map {β : Type} (s : Spacing) (found : Option α) (g : α → β) :
    s.onLine (found.map g) = (s.onLine found).map g := by
  cases s <;> rfl

theorem or_some_map {β : Type} (found : Option α) (g : α → β) (x : α) :
    (found.map g).or (some (g x)) = some (g (found.getD x)) := by
  cases found <;> rfl

end Line

/-- Of some declarations the last one whose flags stand on the line on which the first one begins,
and the declarations after it. -/
def lastFlags? : List LaidOut → Option (LaidOut × List LaidOut)
  | [] => none
  | x :: rest => x.afterKey.onLine (some ((x.afterAll.onLine (lastFlags? rest)).getD (x, rest)))

/-- The declaration whose flags are the last ones on the line of the tag of `x`, and the
declarations after it. -/
def lastFlagsFrom (x : LaidOut) (rest : List LaidOut) : LaidOut × List LaidOut :=
  (x.afterAll.onLine (lastFlags? rest)).getD (x, rest)

/-- What is read of the flags of a declaration, in front of the declarations after it. -/
def flagsReading (e : LineEnd) (segment : List Char) (r : LaidOut × List LaidOut) :
    OperatorSet × List Char :=
  (r.1.wording.operators, r.1.endPart e (layoutText e segment r.2))

theorem flags?_flagsPart (x : LaidOut) (rest : List LaidOut) :
    flags? (x.flagsPart e (layoutText e segment rest)) =
      some (flagsReading e segment (x, rest)) := by
  have h := flags?_four x.wording.operators.set x.wording.operators.add x.wording.operators.remove
    x.wording.operators.delete (x.endPart e (layoutText e segment rest))
  rwa [List.cons_append] at h

theorem lastOnLine_flagsPart {rest : List LaidOut}
    (h : Text.lastOnLine flags? (layoutText e segment rest) =
      (lastFlags? rest).map (flagsReading e segment)) (x : LaidOut) :
    Text.lastOnLine flags? (x.flagsPart e (layoutText e segment rest)) =
      some (flagsReading e segment (lastFlagsFrom x rest)) := by
  have hown : flags? (x.flagsPart e (layoutText e segment rest)) =
      some (flagsReading e segment (x, rest)) := flags?_flagsPart x rest
  unfold LaidOut.flagsPart at hown ⊢
  rw [lastOnLine_cons (by decide), flags_opensWith.plain x.wording.plain_flagsText,
    flags_opensWith.endPart, h, hown, Spacing.onLine_map, or_some_map]
  rfl

/-- There are no flags between the start of a declaration and the end of its key. -/
theorem lastOnLine_flags_namePart (hs : Plain segment) (x : LaidOut)
    (rest : List Char) :
    Text.lastOnLine flags? (x.namePart e segment rest) =
      x.afterKey.onLine (Text.lastOnLine flags? (x.tagPart e rest)) := by
  have hname := x.wording.plain_name hs
  have hkey := x.wording.plain_key
  have hsplit : x.namePart e segment rest =
      ('"' :: x.wording.name segment ++ "\", \"".toList ++ x.wording.key ++ "\",".toList) ++
        (x.afterKey.written e ++ x.tagPart e rest) := by
    simp [LaidOut.namePart, LaidOut.keyPart]
  rw [hsplit, Text.lastOnLine_append, flags_opensWith.written]
  · simp [hname.line, hkey.line]
  · intro c hc
    refine flags_neverStarts (ne_of_mem_of_not_mem hc ?_)
    simp [hname.brace, hkey.brace]

theorem lastOnLine_flags_layoutText (hs : Plain segment) (xs : List LaidOut) :
    Text.lastOnLine flags? (layoutText e segment xs) =
      (lastFlags? xs).map (flagsReading e segment) := by
  induction xs with
  | nil => rfl
  | cons x rest ih =>
    have hbrace : flags? ('\x7b' :: x.namePart e segment (layoutText e segment rest)) = none := rfl
    rw [layoutText_cons, lastOnLine_cons (by decide), hbrace, Option.or_none,
      lastOnLine_flags_namePart hs, LaidOut.tagPart, flags_opensWith.plain x.wording.plain_tagText,
      lastOnLine_flagsPart ih, lastFlags?, ← Spacing.onLine_map]
    rfl

/-- A declaration whose key is taken, with the declaration whose flags are, if its tag stands where
the readers look for it: a line that ends with two characters hides it. -/
def ownKey? (e : LineEnd) (x : LaidOut) (rest : List LaidOut) :
    Option (LaidOut × LaidOut × List LaidOut) :=
  if e = .crlf ∧ x.afterKey.breaks = true then none else some (x, lastFlagsFrom x rest)

/-- Of some declarations the last one whose key stands on the line on which the first one begins
and can be read, with the declaration whose flags are taken for it and the declarations after
that. -/
def lastKey? (e : LineEnd) : List LaidOut → Option (LaidOut × LaidOut × List LaidOut)
  | [] => none
  | x :: rest => (x.afterKey.onLine (x.afterAll.onLine (lastKey? e rest))).or (ownKey? e x rest)

/-- What is read of a key with the tag and the flags that follow it. -/
def keyReading (e : LineEnd) (segment : List Char) (r : LaidOut × LaidOut × List LaidOut) :
    (String × TypeTag × OperatorSet) × List Char :=
  ((String.ofList r.1.wording.key, ⟨String.ofList r.1.wording.tag⟩, r.2.1.wording.operators),
    r.2.1.endPart e (layoutText e segment r.2.2))

theorem tagged?_tagPart (hs : Plain segment) (x : LaidOut)
    (rest : List LaidOut) :
    tagged? (x.tagPart e (layoutText e segment rest)) =
      some ((⟨String.ofList x.wording.tag⟩, (lastFlagsFrom x rest).1.wording.operators),
        (lastFlagsFrom x rest).1.endPart e (layoutText e segment (lastFlagsFrom x rest).2)) := by
  have htag : tag? (x.tagPart e (layoutText e segment rest)) =
      some (⟨String.ofList x.wording.tag⟩, ' ' :: x.flagsPart e (layoutText e segment rest)) := by
    have hw := tag?_written x.wording.tag_letters x.wording.tag_ne
      (' ' :: x.flagsPart e (layoutText e segment rest))
    unfold LaidOut.tagPart Wording.tagText
    simpa using hw
  have hflags : Text.lastOnLine flags? (' ' :: x.flagsPart e (layoutText e segment rest)) =
      some (flagsReading e segment (lastFlagsFrom x rest)) :=
    (flags_opensWith.cons (by decide) _).trans
      (lastOnLine_flagsPart (lastOnLine_flags_layoutText hs rest) x)
  rw [tagged?, htag]
  simp only [Option.bind_eq_bind, Option.bind_some, hflags]
  rfl

theorem firstOnLine_tagPart (hs : Plain segment) (x : LaidOut)
    (rest : List LaidOut) {blanks : List Char} (hb : ∀ c ∈ blanks, c = ' ' ∨ c = '\t') :
    Text.firstOnLine tagged? (blanks ++ x.tagPart e (layoutText e segment rest)) =
      tagged? (x.tagPart e (layoutText e segment rest)) := by
  have hline : '\n' ∉ blanks := fun hm => absurd (hb _ hm) (by decide)
  have hT : 'T' ∉ blanks := fun hm => absurd (hb _ hm) (by decide)
  rw [Text.firstOnLine_append hline fun c hc => tagged_neverStarts (ne_of_mem_of_not_mem hc hT),
    tagged?_tagPart hs]
  exact Text.firstOnLine_cons_of_some (by decide) (tagged?_tagPart hs x rest)

/-- The tag is looked for behind the blanks of its own line or of the next one, and never behind a
line end of two characters. -/
theorem firstOnLine_tagged_afterKey (hs : Plain segment) (x : LaidOut)
    (rest : List LaidOut) :
    Text.firstOnLine tagged?
        (afterKey (x.afterKey.written e ++ x.tagPart e (layoutText e segment rest))) =
      if e = .crlf ∧ x.afterKey.breaks = true then none
      else tagged? (x.tagPart e (layoutText e segment rest)) := by
  cases x.afterKey with
  | sameLine =>
    rw [if_neg fun h => Bool.false_ne_true h.2]
    have blank : ∀ c ∈ [' '], c = ' ' ∨ c = '\t' := by simp
    exact firstOnLine_tagPart hs x rest blank
  | nextLine blanks blank =>
    cases e with
    | lf =>
      rw [if_neg fun h => LineEnd.noConfusion h.1]
      exact firstOnLine_tagPart hs x rest blank
    | crlf =>
      rw [if_pos ⟨rfl, rfl⟩]
      have other : ∀ c ∈ ['\r'], c ≠ 'T' := by simp
      exact Text.firstOnLine_append (by decide) (fun c hc => tagged_neverStarts (other c hc)) _

theorem keyed?_keyPart (hs : Plain segment) (x : LaidOut)
    (rest : List LaidOut) :
    keyed? (x.keyPart e (layoutText e segment rest)) =
      (ownKey? e x rest).map (keyReading e segment) := by
  have hkey : key? (x.keyPart e (layoutText e segment rest)) = some (String.ofList x.wording.key,
      x.afterKey.written e ++ x.tagPart e (layoutText e segment rest)) :=
    key?_written x.wording.key_name _
  rw [keyed?, hkey]
  simp only [Option.bind_eq_bind, Option.bind_some, firstOnLine_tagged_afterKey hs,
    tagged?_tagPart hs, ownKey?]
  split <;> rfl

theorem keyed?_quote_comma (rest : List Char) : keyed? ('"' :: ',' :: rest) = none := rfl

/-- The quote of a name is not that of a key, which has no colon. -/
theorem keyed?_namePart (hs : Plain segment) (x : LaidOut) (rest : List Char) :
    keyed? (x.namePart e segment rest) = none := by
  have hkey : key? (x.namePart e segment rest) = none := by
    by_contra hsome
    obtain ⟨⟨key, left⟩, hk⟩ := Option.ne_none_iff_exists'.mp hsome
    obtain ⟨letters, hletters, -, ht⟩ := key?_eq_some_iff.mp hk
    have hquote : '"' ∉ letters := fun hm => absurd (hletters _ hm) (by decide)
    have hname := eq_of_append_cons_eq (x.wording.plain_name hs).quote hquote (List.cons.inj ht).2
    have hcolon : ':' ∈ letters := hname ▸ List.mem_append_right segment List.mem_cons_self
    exact absurd (hletters _ hcolon) (by decide)
  rw [keyed?, hkey]
  rfl

theorem lastOnLine_keyed_brace (rest : List Char) :
    Text.lastOnLine keyed? ('\x7b' :: rest) = Text.lastOnLine keyed? rest := by
  rw [lastOnLine_cons (by decide), keyed_neverStarts (by decide), Option.or_none]

theorem lastOnLine_keyed_quote_comma (rest : List Char) :
    Text.lastOnLine keyed? ('"' :: ',' :: rest) = Text.lastOnLine keyed? rest := by
  rw [lastOnLine_cons (by decide), keyed?_quote_comma, Option.or_none,
    keyed_opensWith.cons (by decide)]

/-- Of the keys behind a name the last one on the line is taken that can be read: its own only if
no later declaration has such a key there. -/
theorem lastOnLine_keyPart (hs : Plain segment) {rest : List LaidOut}
    (h : Text.lastOnLine keyed? (layoutText e segment rest) =
      (lastKey? e rest).map (keyReading e segment)) (x : LaidOut) :
    Text.lastOnLine keyed? (x.keyPart e (layoutText e segment rest)) =
      (lastKey? e (x :: rest)).map (keyReading e segment) := by
  have hown := keyed?_keyPart (e := e) hs x rest
  have hlater : Text.lastOnLine keyed? (x.tagPart e (layoutText e segment rest)) =
      (x.afterAll.onLine (lastKey? e rest)).map (keyReading e segment) := by
    rw [LaidOut.tagPart, keyed_opensWith.plain x.wording.plain_tagText, LaidOut.flagsPart,
      lastOnLine_keyed_brace, keyed_opensWith.plain x.wording.plain_flagsText,
      keyed_opensWith.endPart, h, Spacing.onLine_map]
  unfold LaidOut.keyPart at hown ⊢
  rw [lastOnLine_cons (by decide), hown, keyed_opensWith.plain x.wording.plain_key,
    lastOnLine_keyed_quote_comma, keyed_opensWith.written, hlater, Spacing.onLine_map,
    ← Option.map_or]
  rfl

theorem lastOnLine_keyed_layoutText (hs : Plain segment) (xs : List LaidOut) :
    Text.lastOnLine keyed? (layoutText e segment xs) =
      (lastKey? e xs).map (keyReading e segment) := by
  induction xs with
  | nil => rfl
  | cons x rest ih =>
    have hname := keyed?_namePart (e := e) hs x (layoutText e segment rest)
    unfold LaidOut.namePart at hname
    rw [layoutText_cons, lastOnLine_keyed_brace, LaidOut.namePart, lastOnLine_cons (by decide),
      hname, Option.or_none, keyed_opensWith.plain (x.wording.plain_name hs),
      lastOnLine_keyed_quote_comma, keyed_opensWith.cons (by decide), lastOnLine_keyPart hs ih]

/-- What is read at the name of a declaration: its name with the last key that can be read on the
line, the tag of that key, and the last flags on the line of the tag. -/
theorem record?_namePart (hs : Plain segment) (x : LaidOut)
    (rest : List LaidOut) :
    record? segment (x.namePart e segment (layoutText e segment rest)) =
      (lastKey? e (x :: rest)).map fun r =>
        (assembled segment (String.ofList (x.wording.name segment)) (keyReading e segment r).1,
          (keyReading e segment r).2) := by
  have hsplit : x.namePart e segment (layoutText e segment rest) =
      '"' :: segment ++ ':' :: x.wording.suffix ++
        '"' :: ',' :: ' ' :: x.keyPart e (layoutText e segment rest) := by
    simp [LaidOut.namePart, Wording.name]
  rw [hsplit, record?_eq, name?_written x.wording.suffix_name, Option.bind_some,
    keyed_opensWith.cons (by decide),
    lastOnLine_keyPart hs (lastOnLine_keyed_layoutText hs rest)]
  cases lastKey? e (x :: rest) <;> rfl

end Text

end TraitSchema.KeyMap
