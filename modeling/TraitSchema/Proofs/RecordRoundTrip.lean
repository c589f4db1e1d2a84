import TraitSchema.Proofs.RecordLayout

namespace TraitSchema.KeyMap

open Text (NeverStarts)

section Scan

variable {segment : List Char}

theorem quoteless_neverStarts {xs : List Char} (h : '"' ∉ xs) :
    ∀ c ∈ xs, NeverStarts (record? segment) c := fun _ hc =>
  record_neverStarts segment (ne_of_mem_of_not_mem hc h)

/-- A quote before a comma starts no record. -/
theorem scan_quote_comma (hs : ',' ∉ segment) (rest : List Char) :
    Text.scan (fun _ => record? segment) ('"' :: ',' :: rest) =
      Text.scan (fun _ => record? segment) (',' :: rest) := by
  have hcolon : ':' ∉ ([] : List Char) := List.not_mem_nil
  exact Text.scan_cons_of_none (record?_eq_none_of_not_colon hcolon (by decide) hs rest)

end Scan

end TraitSchema.KeyMap
