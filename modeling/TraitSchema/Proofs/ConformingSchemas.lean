import TraitSchema.Proofs.GeneratedSchemas
import TraitSchema.Proofs.SettledRequirements

namespace TraitSchema.Conformance

namespace Requirement.Settles

variable {α : Type} {q : Requirement α} {doc : Json} {r : CheckResult}

theorem isFailure_iff (h : q.Settles doc r) :
    r.isFailure = true ↔ q.severity = .failure ∧ ∃ o, q.Offends doc o := by
  obtain ⟨offenders, details, -, hmem, -, rfl⟩ := h
  simp only [← hmem]
  split
  next hnil => simp [hnil, CheckResult.pass, CheckResult.isFailure]
  next hne => simp [CheckResult.isFailure, List.exists_mem_of_ne_nil _ hne]

theorem isFailure_iff_offends (h : q.Settles doc r) (hq : q.severity = .failure) :
    r.isFailure = true ↔ ∃ o, q.Offends doc o := by
  rw [h.isFailure_iff, and_iff_right hq]

end Requirement.Settles

theorem Report.allPassed_iff {report : Report} :
    report.allPassed = true ↔ ∀ r ∈ report.results, ¬ r.isFailure = true := by
  rw [allPassed, beq_iff_eq, count, List.countP_eq_zero]
  rfl

/-- A schema conforms if nothing offends against any requirement. -/
theorem conforms_iff {doc : Json} :
    Conforms doc ↔ (¬ ∃ o, partition.Offends doc o) ∧ (¬ ∃ e, codeless.Offends doc e) ∧
      (¬ ∃ e, literalNames.Offends doc e) ∧ (¬ ∃ e, validPatterns.Offends doc e) ∧
      (¬ ∃ d, closedRequests.Offends doc d) ∧ (¬ ∃ e, resolvedReferences.Offends doc e) := by
  constructor
  · intro h
    refine ⟨?_, ?_, ?_, ?_, ?_, ?_⟩
    · rintro ⟨o, e, e', he, he', hp, hp', ho, ho', ht, ht', hne⟩
      exact hne (h.partitioned e e' he he' hp hp' (ho.trans ho'.symm) (ht.trans ht'.symm))
    · rintro ⟨e, he, hp, hcode⟩
      exact hcode (h.uncoded e he hp)
    · rintro ⟨e, he, hp, hb, hfamily⟩
      exact h.literal e he hp hb hfamily
    · rintro ⟨e, he, hp, hfault⟩
      exact hfault (h.valid e he hp)
    · rintro ⟨d, hd, hb, hopen⟩
      exact hopen (h.closed d hd hb)
    · rintro ⟨e, he, hp, target, hdangles⟩
      exact h.resolved e he hp target hdangles
  · rintro ⟨hpartition, hcode, hfamily, hpattern, hclosed, hrefs⟩
    constructor
    · intro e e' he he' hp hp' ho ht
      by_contra hne
      exact hpartition ⟨(e'.definition.owner, e'.trait), e, e', he, he', hp, hp', ho, rfl, ht, rfl,
        hne⟩
    · intro e he hp
      by_contra hne
      exact hcode ⟨e, he, hp, hne⟩
    · exact fun e he hp hb hnames => hfamily ⟨e, he, hp, hb, hnames⟩
    · intro e he hp
      by_contra hne
      exact hpattern ⟨e, he, hp, hne⟩
    · intro d hd hb
      by_contra hne
      exact hclosed ⟨d, hd, hb, hne⟩
    · exact fun e he hp target hdangles => hrefs ⟨e, he, hp, target, hdangles⟩

/-- The results on closure: two requirements are settled if there are definitions of traits, and
otherwise their absence is warned of. -/
def SettlesClosure (doc : Json) (results : List CheckResult) : Prop :=
  ((¬ ∃ d, Defines doc d) ∧
    results = [.warn "schema/closure" "No generated trait definitions found" []]) ∨
  ((∃ d, Defines doc d) ∧ ∃ r r', results = [r, r'] ∧ closedRequests.Settles doc r ∧
    openDocumentation.Settles doc r')

theorem settlesClosure {doc : Json} (h : doc.Ordered) :
    SettlesClosure doc (checkClosure doc).results := by
  simp only [checkClosure, List.isEmpty_iff]
  split
  next hnil =>
    refine .inl ⟨?_, rfl⟩
    rintro ⟨d, hd⟩
    exact List.ne_nil_of_mem (mem_traitDefinitions.mpr hd) hnil
  next hne =>
    obtain ⟨d, hd⟩ := List.exists_mem_of_ne_nil _ hne
    exact .inr ⟨⟨d, mem_traitDefinitions.mp hd⟩, _, _, rfl, settles_closedRequests h,
      settles_openDocumentation h⟩

theorem SettlesClosure.no_failure_iff {doc : Json} {results : List CheckResult}
    (h : SettlesClosure doc results) :
    (∀ r ∈ results, ¬ r.isFailure = true) ↔ ¬ ∃ d, closedRequests.Offends doc d := by
  rcases h with ⟨hnone, rfl⟩ | ⟨-, r, r', rfl, hr, hr'⟩
  · refine iff_of_true (by simp [CheckResult.warn, CheckResult.isFailure]) ?_
    rintro ⟨d, hd, -⟩
    exact hnone ⟨d, hd⟩
  · have hopen : ¬ r'.isFailure = true := by
      intro hf
      cases (hr'.isFailure_iff.mp hf).1
    rw [List.forall_mem_cons, List.forall_mem_singleton, hr.isFailure_iff_offends rfl,
      and_iff_left hopen]

/-- The report of a schema passes exactly if the schema conforms. Its results come in a fixed order
and list what offends against each requirement. -/
theorem validate_settles (doc : Json) (h : doc.Ordered) :
    ((validate doc).allPassed = true ↔ Conforms doc) ∧
    ∃ overlaps codes families patterns closure references,
      (validate doc).results = [overlaps, codes, families, patterns] ++ closure ++ [references] ∧
      partition.Settles doc overlaps ∧ codeless.Settles doc codes ∧
      literalNames.Settles doc families ∧ validPatterns.Settles doc patterns ∧
      SettlesClosure doc closure ∧ resolvedReferences.Settles doc references := by
  obtain ⟨overlaps, hoverlaps, hpartition⟩ := settles_partition h
  obtain ⟨codes, hcodes, hcodeless⟩ := settles_codeless h
  obtain ⟨families, patterns, hwildcards, hliteral, hvalid⟩ := settles_wildcards h
  obtain ⟨references, hreferences, hresolved⟩ := settles_references h
  have hclosure := settlesClosure h
  have hresults : (validate doc).results =
      [overlaps, codes, families, patterns] ++ (checkClosure doc).results ++ [references] := by
    rw [results_validate, hoverlaps, hcodes, hwildcards, hreferences]
    rfl
  refine ⟨?_, overlaps, codes, families, patterns, _, references, hresults, hpartition, hcodeless,
    hliteral, hvalid, hclosure, hresolved⟩
  rw [Report.allPassed_iff, hresults, conforms_iff, List.forall_mem_append, List.forall_mem_append,
    hclosure.no_failure_iff]
  simp only [List.forall_mem_cons, List.not_mem_nil, false_implies, implies_true, and_true,
    and_assoc, hpartition.isFailure_iff_offends rfl, hcodeless.isFailure_iff_offends rfl,
    hliteral.isFailure_iff_offends rfl, hvalid.isFailure_iff_offends rfl,
    hresolved.isFailure_iff_offends rfl]

def leakyBody : Table Json :=
  [("additionalProperties", .bool false),
    ("properties", .object [("base:owner", .object [("operatorCode", .string "string")])])]

def leakySchema : Json :=
  .object [("$defs", .object [("userCommonTraits", .object leakyBody)])]

theorem validate_settles_leaky :
    leakySchema.Ordered ∧ (validate leakySchema).allPassed = false ∧
      ∃ r ∈ (validate leakySchema).results, codeless.Settles leakySchema r ∧
        r.isFailure = true := by
  have hbody : (Json.object leakyBody).Ordered :=
    ⟨List.pairwise_pair.mpr (by decide +kernel), trivial,
      Json.ordered_singleton (Json.ordered_singleton trivial), trivial⟩
  have hordered : leakySchema.Ordered := Json.ordered_singleton (Json.ordered_singleton hbody)
  obtain ⟨hpassed, _, codes, _, _, _, _, hresults, _, hcodes, _⟩ :=
    validate_settles leakySchema hordered
  have hleak : codeless.Offends leakySchema
      ⟨⟨"userCommonTraits", "user", .common, .object leakyBody⟩, "properties", "base:owner",
        .object [("operatorCode", .string "string")]⟩ := by
    refine ⟨⟨⟨_, rfl, List.mem_cons_self, by decide, "CommonTraits", ?_, rfl⟩, _, rfl,
      List.mem_cons_self⟩, rfl, fun h => nomatch h⟩
    exact List.mem_cons_of_mem _ (List.mem_cons_of_mem _ List.mem_cons_self)
  have hfail := (hcodes.isFailure_iff_offends rfl).mpr ⟨_, hleak⟩
  refine ⟨hordered, ?_, codes, by simp [hresults], hcodes, hfail⟩
  rw [← Bool.not_eq_true, hpassed, conforms_iff]
  exact fun h => h.2.1 ⟨_, hleak⟩

end TraitSchema.Conformance
