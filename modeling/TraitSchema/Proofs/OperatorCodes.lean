import TraitSchema.Proofs.ConvertedFragments
import TraitSchema.Proofs.RecordReadings

namespace TraitSchema

/-- The tag has nothing but the characters that key maps give to tags. -/
def TypeTag.IsDeclarable (tag : TypeTag) : Prop :=
  ∀ c ∈ tag.text.toList, KeyMap.isTagChar c = true

def isCodeTagChar (c : Char) : Bool := c.isLower || c == '_'

/-- The operators as a code shows them. -/
def OperatorSet.marks (ops : OperatorSet) : List Char :=
  if ops.isEmpty then notApplicable.toList else ops.toList.flatMap Operator.mark

theorem toList_operatorCode (tag : TypeTag) (ops : OperatorSet) :
    (operatorCode tag ops).toList = tag.lower ++ ops.marks := by
  rw [operatorCode, String.toList_ofList]
  rfl

namespace TypeTag

variable {tag tag' : TypeTag}

theorem IsDeclarable.lower_eq (h : tag.IsDeclarable) :
    tag.lower = tag.text.toList.map Char.toLower := by
  apply Text.lowerAfter_of_ascii
  intro c hc
  rcases KeyMap.isTagChar_iff.mp (h c hc) with hu | rfl
  · have ha : c.isAlpha = true := by simp [Char.isAlpha, hu]
    exact Text.isAscii_of_isAlpha ha
  · rfl

theorem IsDeclarable.isCodeTagChar (h : tag.IsDeclarable) :
    ∀ c ∈ tag.lower, isCodeTagChar c = true := by
  intro c hc
  rw [h.lower_eq] at hc
  obtain ⟨capital, hm, rfl⟩ := List.mem_map.mp hc
  rcases KeyMap.isTagChar_iff.mp (h capital hm) with hu | rfl
  · have hl : capital.toLower.isLower = true := by
      rw [Char.isLower_toLower_eq_isAlpha]
      simp [Char.isAlpha, hu]
    simp [TraitSchema.isCodeTagChar, hl]
  · rfl

theorem IsDeclarable.eq_of_lower_eq (h : tag.IsDeclarable) (h' : tag'.IsDeclarable)
    (he : tag.lower = tag'.lower) : tag = tag' := by
  have hsmall : ∀ {t : TypeTag}, t.IsDeclarable → ∀ c ∈ t.text.toList, c.isLower = false := by
    intro t ht c hc
    rcases KeyMap.isTagChar_iff.mp (ht c hc) with hu | rfl
    · simpa using Char.not_isLower_of_isUpper hu
    · rfl
  rw [h.lower_eq, h'.lower_eq] at he
  have htext : tag.text.toList = tag'.text.toList := by
    rw [← Text.map_toUpper_map_toLower (hsmall h), he, Text.map_toUpper_map_toLower (hsmall h')]
  cases tag
  cases tag'
  exact congrArg TypeTag.mk (String.toList_inj.mp htext)

end TypeTag

theorem Text.occurs_append {lead : Char} {word xs : List Char} (h : lead ∉ xs) (ys : List Char) :
    occurs (lead :: word) (xs ++ ys) = occurs (lead :: word) ys := by
  induction xs with
  | nil => rfl
  | cons c xs ih =>
    rw [List.mem_cons, not_or] at h
    have hp : (lead :: word).isPrefixOf (c :: (xs ++ ys)) = false := by
      simp [List.isPrefixOf, h.1]
    rw [List.cons_append, occurs, hp, ih h.2, Bool.false_or]

theorem OperatorSet.eq_of_contains_eq {ops ops' : OperatorSet}
    (h : ∀ op, ops.contains op = ops'.contains op) : ops = ops' := by
  obtain ⟨set, add, remove, delete⟩ := ops
  obtain ⟨set', add', remove', delete'⟩ := ops'
  have hset : set = set' := h .set
  have hadd : add = add' := h .add
  have hremove : remove = remove' := h .remove
  have hdelete : delete = delete' := h .delete
  rw [hset, hadd, hremove, hdelete]

theorem OperatorSet.exists_contains {ops : OperatorSet} (h : ops.isEmpty = false) :
    ∃ op, ops.contains op = true := by
  by_contra hne
  have hnone : ∀ op, ops.contains op = OperatorSet.contains ⟨false, false, false, false⟩ op := by
    intro op
    rw [Bool.eq_false_iff.mpr fun hop => hne ⟨op, hop⟩]
    cases op <;> rfl
  rw [eq_of_contains_eq hnone] at h
  cases h

theorem OperatorSet.marks_cases (ops : OperatorSet) :
    ∃ c rest, ops.marks = c :: rest ∧ isCodeTagChar c = false := by
  obtain ⟨set, add, remove, delete⟩ := ops
  cases set <;> cases add <;> cases remove <;> cases delete <;> exact ⟨_, _, rfl, rfl⟩

theorem OperatorSet.occurs_mark_marks (ops : OperatorSet) (op : Operator) :
    Text.occurs op.mark ops.marks = ops.contains op := by
  obtain ⟨set, add, remove, delete⟩ := ops
  cases op <;> cases set <;> cases add <;> cases remove <;> cases delete <;> rfl

theorem OperatorSet.getLast?_marks {ops : OperatorSet} (h : ops.isEmpty = false) :
    ops.marks.getLast? = some '\x60' := by
  obtain ⟨set, add, remove, delete⟩ := ops
  cases set <;> cases add <;> cases remove <;> cases delete <;> first | rfl | cases h

section Codes

variable {tag tag' : TypeTag} {ops ops' : OperatorSet}

/-- A code starts with its tag in lower case. -/
theorem takeWhile_operatorCode (h : tag.IsDeclarable) (ops : OperatorSet) :
    (operatorCode tag ops).toList.takeWhile isCodeTagChar = tag.lower := by
  obtain ⟨c, rest, hmarks, hc⟩ := ops.marks_cases
  rw [toList_operatorCode, hmarks, List.takeWhile_append_of_pos h.isCodeTagChar,
    List.takeWhile_cons_of_neg (by simp [hc]), List.append_nil]

/-- A code has the marks of its operators and no others. -/
theorem occurs_mark_operatorCode (h : tag.IsDeclarable) (ops : OperatorSet) (op : Operator) :
    Text.occurs op.mark (operatorCode tag ops).toList = ops.contains op := by
  have hquote : '\x60' ∉ tag.lower := fun hm => absurd (h.isCodeTagChar _ hm) (by decide)
  have hmark : op.mark = '\x60' :: ('"' :: op.label.toList ++ ['"', '\x60']) := rfl
  rw [toList_operatorCode, hmark, Text.occurs_append hquote, ← hmark]
  exact ops.occurs_mark_marks op

theorem operatorCode_inj (h : tag.IsDeclarable) (h' : tag'.IsDeclarable)
    (he : operatorCode tag ops = operatorCode tag' ops') : tag = tag' ∧ ops = ops' := by
  constructor
  · apply h.eq_of_lower_eq h'
    rw [← takeWhile_operatorCode h ops, he, takeWhile_operatorCode h' ops']
  · apply OperatorSet.eq_of_contains_eq
    intro op
    rw [← occurs_mark_operatorCode h, he, occurs_mark_operatorCode h']

theorem isSuffixOf_operatorCode (tag : TypeTag) (h : ops.isEmpty = false) :
    notApplicable.toList.isSuffixOf (operatorCode tag ops).toList = false := by
  by_contra hne
  have hsuffix := List.isSuffixOf_iff_suffix.mp (Bool.not_eq_false _ ▸ hne)
  obtain ⟨lead, hlead⟩ := hsuffix
  have hlast := congrArg List.getLast? hlead
  rw [toList_operatorCode, List.getLast?_append, List.getLast?_append,
    OperatorSet.getLast?_marks h] at hlast
  have hends : some 'A' = some '\x60' := hlast
  simp at hends

theorem exists_occurs_mark (h : tag.IsDeclarable) (hops : ops.isEmpty = false) :
    ∃ op : Operator, Text.occurs op.mark (operatorCode tag ops).toList = true := by
  obtain ⟨op, hop⟩ := OperatorSet.exists_contains hops
  exact ⟨op, (occurs_mark_operatorCode h ops op).trans hop⟩

end Codes

theorem TraitEntry.code_ofDeclaration_eq_some_iff {d : Declaration} {b : Bucket} {code : String} :
    (ofDeclaration d b).code = some code ↔
      b ≠ .extractOnly ∧ operatorCode d.tag d.operators = code := by
  rw [ofDeclaration]
  by_cases hb : b = .extractOnly <;> simp [hb]

theorem TraitEntry.type_eq_of_code_eq {d e : Declaration} {b c : Bucket} {code : String}
    (hd : d.tag.IsDeclarable) (he : e.tag.IsDeclarable)
    (hb : (ofDeclaration d b).code = some code) (hc : (ofDeclaration e c).code = some code) :
    (ofDeclaration d b).type = (ofDeclaration e c).type ∧
      (ofDeclaration d b).pseudoBoolean = (ofDeclaration e c).pseudoBoolean := by
  have hcode := (code_ofDeclaration_eq_some_iff.mp hb).2
  have hcode' := (code_ofDeclaration_eq_some_iff.mp hc).2
  obtain ⟨htag, hops⟩ := operatorCode_inj hd he (hcode.trans hcode'.symm)
  simp only [ofDeclaration, htag, hops, and_self]

theorem KeyMap.isDeclarable_of_mem_records {segment : String} {text : List Char} {d : Declaration}
    (h : d ∈ records segment text) : d.tag.IsDeclarable := by
  obtain ⟨_, _, _, hr⟩ := Text.exists_of_mem_scan h
  obtain ⟨r, rfl, -, -⟩ := record?_eq_some_iff.mp hr
  intro c hc
  rw [RecordText.declaration, String.toList_ofList] at hc
  exact r.keyed.tagged.tag_chars c hc

/-- A trait without operators is for reading alone, whatever the matrix says. -/
theorem Conversion.isEmpty_eq_false_of_bucketOf {c : Conversion} {d : Declaration}
    (h : c.bucketOf d ≠ .extractOnly) : d.operators.isEmpty = false := by
  by_contra hne
  have hempty : d.operators.isEmpty = true := by simpa using hne
  apply h
  rw [bucketOf, supported, if_pos hempty, Bucket.ofSupport, if_pos rfl]

/-- An entry of a converted fragment is that of a declaration, which has operators unless the trait
is for reading alone. -/
theorem Fragment.IsConverted.exists_declarable {f : Fragment} (hf : f.IsConverted) {b : Bucket}
    {name : String} {entry : TraitEntry} (h : (f.bucket b).get? name = some entry) :
    ∃ d : Declaration, d.tag.IsDeclarable ∧ entry = .ofDeclaration d b ∧
      (b ≠ .extractOnly → d.operators.isEmpty = false) := by
  obtain ⟨c, source, -, d, hd, rfl, hentry⟩ := hf.exists_declared_of_get? h
  obtain ⟨segment, -, hrecord⟩ := List.mem_flatMap.mp hd
  exact ⟨d, KeyMap.isDeclarable_of_mem_records hrecord, hentry,
    Conversion.isEmpty_eq_false_of_bucketOf⟩

/-- A code is that of one declarable tag and one set of operators, so entries of converted
fragments with one code have the same type and agree on whether they stand for booleans. Every
trait of such a fragment that is not for reading alone has a code with the mark of an operator. -/
theorem codes_decode_uniquely :
    (∀ tag tag' : TypeTag, tag.IsDeclarable → tag'.IsDeclarable → ∀ ops ops' : OperatorSet,
      operatorCode tag ops = operatorCode tag' ops' → tag = tag' ∧ ops = ops') ∧
    (∀ f g : Fragment, f.IsConverted → g.IsConverted → ∀ b c name other entry entry' code,
      (f.bucket b).get? name = some entry → (g.bucket c).get? other = some entry' →
      entry.code = some code → entry'.code = some code →
      entry.type = entry'.type ∧ entry.pseudoBoolean = entry'.pseudoBoolean) ∧
    (∀ f : Fragment, f.IsConverted → ∀ b name entry, b ≠ .extractOnly →
      (f.bucket b).get? name = some entry → ∃ code, entry.code = some code ∧
        (∃ op : Operator, Text.occurs op.mark code.toList = true) ∧
        notApplicable.toList.isSuffixOf code.toList = false) := by
  refine ⟨fun tag tag' h h' ops ops' => operatorCode_inj h h', ?_, ?_⟩
  · intro f g hf hg b c name other entry entry' code hentry hentry' hcode hcode'
    obtain ⟨d, hd, rfl, -⟩ := hf.exists_declarable hentry
    obtain ⟨e, he, rfl, -⟩ := hg.exists_declarable hentry'
    exact TraitEntry.type_eq_of_code_eq hd he hcode hcode'
  · intro f hf b name entry hb hentry
    obtain ⟨d, hd, rfl, hops⟩ := hf.exists_declarable hentry
    have hcode : (TraitEntry.ofDeclaration d b).code = some (operatorCode d.tag d.operators) :=
      TraitEntry.code_ofDeclaration_eq_some_iff.mpr ⟨hb, rfl⟩
    exact ⟨_, hcode, exists_occurs_mark hd (hops hb), isSuffixOf_operatorCode d.tag (hops hb)⟩

theorem codes_decode_uniquely_access :
    let code := operatorCode ⟨"STRING"⟩ ⟨true, false, false, false⟩
    (Fragment.accessFragment.bucket .common).get? "base:access" ≠ none ∧
      ∃ op : Operator, Text.occurs op.mark code.toList = true := by
  intro code
  have hentry := Fragment.get?_accessFragment
  obtain ⟨-, -, hnames⟩ := codes_decode_uniquely
  obtain ⟨shown, hshown, hmark, -⟩ :=
    hnames _ Fragment.accessFragment_isConverted .common _ _ (by decide) hentry
  have hcode : code = shown := Option.some.inj hshown
  rw [hentry, hcode]
  exact ⟨Option.some_ne_none _, hmark⟩

end TraitSchema
