import TraitSchema.Proofs.AcceptedDeclarations
import TraitSchema.Proofs.DeclaredNames

namespace TraitSchema

theorem exists_error_iff {ε α : Type} {result : Except ε α} :
    (∃ e, result = .error e) ↔ ¬∃ a, result = .ok a := by
  cases result <;> simp

namespace KeyMap

/-- The declarations of some segments, segment by segment. -/
def recordsOf (segments : List String) (text : List Char) : List Declaration :=
  segments.flatMap fun segment => records segment text

variable {xs ys : List String} {text : List Char}

theorem mem_recordsOf_iff (hsame : ∀ s, s ∈ xs ↔ s ∈ ys) (d : Declaration) :
    d ∈ recordsOf xs text ↔ d ∈ recordsOf ys text := by
  simp only [recordsOf, List.mem_flatMap, hsame]

/-- The first declaration of a name is the same for every list of the same segments. -/
theorem find?_recordsOf_eq (hletters : ∀ s ∈ xs, ∀ ch ∈ s.toList, isSegmentChar ch = true)
    (hsame : ∀ s, s ∈ xs ↔ s ∈ ys) (name : String) :
    ((recordsOf xs text).find? fun d => d.propertyName == name) =
      (recordsOf ys text).find? fun d => d.propertyName == name := by
  rw [recordsOf, recordsOf, List.find?_flatMap, List.find?_flatMap]
  refine findSome?_eq_of_mem_iff (fun s hs t ht d e hd he => ?_) hsame
  have hname : d.propertyName = name := by simpa using List.find?_some hd
  have hname' : e.propertyName = name := by simpa using List.find?_some he
  exact segment_eq_of_propertyName_eq (hletters s hs) (hletters t ht)
    (List.mem_of_find?_eq_some hd) (List.mem_of_find?_eq_some he) (hname.trans hname'.symm)

end KeyMap

namespace Conversion

variable {c : Conversion} {declared : List Char} {xs ys : List String}

theorem outcome_placeSegments_empty (c : Conversion) (declared : List Char) (xs : List String) :
    (c.placeSegments declared xs).outcome =
      (KeyMap.recordsOf xs declared).foldlM (fun f d => (c.place f d).outcome)
        (.empty c.adminType) :=
  outcome_placeSegments c declared xs (.empty c.adminType)

theorem exists_placeSegments_iff (hsame : ∀ s, s ∈ xs ↔ s ∈ ys) :
    (∃ f, (c.placeSegments declared xs).outcome = .ok f) ↔
      ∃ f, (c.placeSegments declared ys).outcome = .ok f := by
  simp only [outcome_placeSegments_empty, exists_placeAll_iff, KeyMap.mem_recordsOf_iff hsame]

theorem find?_placeSegments_eq
    (hletters : ∀ s ∈ xs, ∀ ch ∈ s.toList, KeyMap.isSegmentChar ch = true)
    (hsame : ∀ s, s ∈ xs ↔ s ∈ ys) {f g : Fragment}
    (hf : (c.placeSegments declared xs).outcome = .ok f)
    (hg : (c.placeSegments declared ys).outcome = .ok g) (name : String) :
    f.find? name = g.find? name := by
  rw [outcome_placeSegments_empty] at hf hg
  rw [placeAll_ok hf, placeAll_ok hg, find?_placeAll, find?_placeAll,
    KeyMap.find?_recordsOf_eq hletters hsame]

/-- A segment that has been read may be read again, and changes nothing. -/
theorem placeSegments_again {front back : List String} {segment : String}
    (h : segment ∈ front) :
    (c.placeSegments declared (front ++ segment :: back)).outcome =
      (c.placeSegments declared (front ++ back)).outcome := by
  simp only [outcome_placeSegments_empty, KeyMap.recordsOf, List.flatMap_append, List.flatMap_cons,
    List.foldlM_append]
  cases hf : (front.flatMap fun s => KeyMap.records s declared).foldlM
      (fun f d => (c.place f d).outcome) (Fragment.empty c.adminType) with
  | error e => rfl
  | ok f =>
    have hagain := placeAll_again hf fun d hd => List.mem_flatMap.mpr ⟨segment, h, hd⟩
    change (KeyMap.records segment declared).foldlM (fun f d => (c.place f d).outcome) f >>= _ = _
    rw [hagain]

/-- Only the set of segments matters: two lists of the same segments fail together, fill the same
buckets and leave the same tags unresolved, and a segment that comes again adds, changes and
rejects nothing. -/
theorem placeSegments_depends_on_set (c : Conversion) (declared : List Char) {xs ys : List String}
    (hletters : ∀ s ∈ xs, ∀ ch ∈ s.toList, KeyMap.isSegmentChar ch = true)
    (hsame : ∀ s, s ∈ xs ↔ s ∈ ys) :
    ((∃ e, (c.placeSegments declared xs).outcome = .error e) ↔
      ∃ e, (c.placeSegments declared ys).outcome = .error e) ∧
    (∀ f g, (c.placeSegments declared xs).outcome = .ok f →
      (c.placeSegments declared ys).outcome = .ok g →
      (∀ b, f.bucket b = g.bucket b) ∧ ∀ name, name ∈ f.unresolved ↔ name ∈ g.unresolved) ∧
    ∀ front segment back, xs = front ++ segment :: back → segment ∈ front →
      (c.placeSegments declared xs).outcome =
        (c.placeSegments declared (front ++ back)).outcome := by
  refine ⟨?_, fun f g hf hg => ?_, ?_⟩
  · rw [exists_error_iff, exists_error_iff, exists_placeSegments_iff hsame]
  · have hfind := find?_placeSegments_eq hletters hsame hf hg
    refine ⟨Fragment.bucket_eq_of_find?_eq hfind, fun name => ?_⟩
    rw [Fragment.mem_unresolved_iff, Fragment.mem_unresolved_iff, hfind]
  · rintro front segment back rfl h
    exact placeSegments_again h

def sizeSection : List Char :=
  "\x7b\"base:size\", \"size\", TRAIT_TYPE_UINT, \x7btrue, false, false, false\x7d\x7d
  \x7b\"tso:size\", \"size\", TRAIT_TYPE_UINT, \x7btrue, false, false, false\x7d\x7d".toList

def sizeConversion : Conversion :=
  ⟨.strict, ⟨"user"⟩, .ofRows
    [⟨"base", "size", ⟨false, true, true⟩⟩, ⟨"tso", "size", ⟨false, true, true⟩⟩]⟩

theorem placeSegments_depends_on_set_repeated :
    ∃ f g, (sizeConversion.placeSegments sizeSection ["TSO", "BASE", "TSO"]).outcome = .ok f ∧
      (sizeConversion.placeSegments sizeSection ["BASE", "TSO"]).outcome = .ok g ∧
      f.traitCount = 2 ∧ (∀ b, f.bucket b = g.bucket b) ∧
      (sizeConversion.placeSegments sizeSection ["TSO", "BASE"]).outcome = .ok f := by
  have hletters : ∀ s ∈ ["TSO", "BASE", "TSO"], ∀ ch ∈ s.toList,
      KeyMap.isSegmentChar ch = true := by simp [KeyMap.isSegmentChar]
  have hsame : ∀ s, s ∈ ["TSO", "BASE", "TSO"] ↔ s ∈ ["BASE", "TSO"] := by simp [or_comm]
  obtain ⟨hfails, hequal, hagain⟩ :=
    placeSegments_depends_on_set sizeConversion sizeSection hletters hsame
  have hcount : (sizeConversion.placeSegments sizeSection
      ["TSO", "BASE", "TSO"]).outcome.toOption.map Fragment.traitCount = some 2 := by
    decide +kernel
  cases hf : (sizeConversion.placeSegments sizeSection ["TSO", "BASE", "TSO"]).outcome with
  | error e =>
    rw [hf] at hcount
    cases hcount
  | ok f =>
    rw [hf] at hcount
    cases hg : (sizeConversion.placeSegments sizeSection ["BASE", "TSO"]).outcome with
    | error e =>
      obtain ⟨e', he⟩ := hfails.mpr ⟨e, hg⟩
      cases hf.symm.trans he
    | ok g =>
      refine ⟨f, g, rfl, rfl, Option.some.inj hcount, (hequal f g hf hg).1, ?_⟩
      exact (hagain ["TSO", "BASE"] "TSO" [] rfl List.mem_cons_self).symm.trans hf

end Conversion

end TraitSchema
