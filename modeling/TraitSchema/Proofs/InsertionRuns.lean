import Mathlib.Data.Finset.Card
import TraitSchema.Proofs.BucketTables

namespace TraitSchema

def firstInsertion? (ps : List Placement) (name : String) : Option Placement :=
  ps.find? fun p => p.name == name

/-- What becomes of an insertion, given the first one of its name if there was any. -/
def answerTo (p : Placement) : Option Placement → InsertOutcome
  | none => .inserted
  | some first =>
    if first.bucket = p.bucket ∧ first.entry = p.entry then .duplicate else .conflict first.bucket

namespace Fragment

theorem insert_outcome (f : Fragment) (p : Placement) :
    (f.insert p).2 = answerTo p (f.find? p.name) := by
  cases h : f.find? p.name with
  | none => exact (insert_of_new h).2.2
  | some first =>
    rw [insert_of_taken h, answerTo]
    simp only [Placement.ext_iff_of_name (name_of_find? h)]

/-- An insertion that does not succeed leaves the fragment as it was. -/
theorem insert_eq_self {f : Fragment} {p : Placement} (h : (f.insert p).2 ≠ .inserted) :
    (f.insert p).1 = f := by
  cases hf : f.find? p.name with
  | none => exact absurd (insert_of_new hf).2.2 h
  | some first => rw [insert_of_taken hf]

theorem locate_insertAll_empty (t : AdminType) (ps : List Placement) (name : String) :
    ((empty t).insertAll ps).locate name = (firstInsertion? ps name).map (·.bucket) := by
  rw [locate, find?_insertAll_empty, firstInsertion?]

theorem get?_bucket_insertAll_empty (t : AdminType) (ps : List Placement) (b : Bucket)
    (name : String) :
    (((empty t).insertAll ps).bucket b).get? name =
      ((firstInsertion? ps name).filter fun p => p.bucket = b).map (·.entry) := by
  rw [get?_bucket, find?_insertAll_empty, firstInsertion?]

theorem traitCount_insertAll_empty (t : AdminType) (ps : List Placement) :
    ((empty t).insertAll ps).traitCount = (ps.map (·.name)).toFinset.card := by
  have hnodup : ((empty t).insertAll ps).names.Nodup := ((empty t).insertAll ps).names_nodup
  rw [traitCount_eq, ← List.toFinset_card_of_nodup hnodup]
  congr 1
  ext name
  rw [names_insertAll_empty, List.mem_toFinset, List.mem_toFinset, List.mem_eraseDups]

theorem unresolved_insertAll_empty (t : AdminType) (ps : List Placement) :
    ((empty t).insertAll ps).unresolved =
      (ps.map (·.name)).eraseDups.filter fun name =>
        (firstInsertion? ps name).any fun p => p.entry.type.isNone := by
  rw [unresolved_eq, names_insertAll_empty]
  exact List.filter_congr fun name _ => by rw [find?_insertAll_empty, firstInsertion?]

/-- After any run of insertions into an empty fragment its tables are those that the same run fills
one after the other. Each name is in one bucket at most, namely with the bucket and the entry of its
first insertion. From that first insertion the next one is answered, and unless its name is new it
changes no bucket and not the list of unresolved names. Distinct names are counted once, and
unresolved ones are listed once, in the order in which they came first. -/
theorem insertions_keep_first (t : AdminType) (ps : List Placement) :
    let f := (empty t).insertAll ps
    let s := (BucketTables.empty t).insertAll ps
    (s = f.tables ∧ (∀ name, s.locate name = f.locate name) ∧ s.traitCount = f.traitCount ∧
      ∀ p, s.insert p = ((f.insert p).1.tables, (f.insert p).2)) ∧
    (∀ name b c, name ∈ (f.bucket b).names → name ∈ (f.bucket c).names → b = c) ∧
    (∀ name, f.locate name = (firstInsertion? ps name).map (·.bucket) ∧
      ∀ b, (f.bucket b).get? name =
        ((firstInsertion? ps name).filter fun p => p.bucket = b).map (·.entry)) ∧
    (∀ p, (f.insert p).2 = answerTo p (firstInsertion? ps p.name) ∧
      ((f.insert p).2 ≠ .inserted →
        (∀ b, (f.insert p).1.bucket b = f.bucket b) ∧
        (f.insert p).1.unresolved = f.unresolved)) ∧
    f.traitCount = (ps.map (·.name)).toFinset.card ∧
    f.unresolved.Nodup ∧
    f.unresolved = (ps.map (·.name)).eraseDups.filter fun name =>
      (firstInsertion? ps name).any fun p => p.entry.type.isNone := by
  intro f s
  have hs : s = f.tables := by simp only [s, f, tables_insertAll, tables_empty]
  refine ⟨?_, fun name b c hb hc => ?_, fun name => ⟨?_, fun b => ?_⟩, fun p => ⟨?_, fun hp => ?_⟩,
    traitCount_insertAll_empty t ps, ?_, unresolved_insertAll_empty t ps⟩
  · rw [hs]
    exact ⟨rfl, locate_tables f, traitCount_tables f, insert_tables f⟩
  · by_contra hbc
    exact disjoint_buckets hbc hb hc
  · exact locate_insertAll_empty t ps name
  · exact get?_bucket_insertAll_empty t ps b name
  · rw [insert_outcome, find?_insertAll_empty, firstInsertion?]
  · rw [insert_eq_self hp]
    exact ⟨fun _ => rfl, rfl⟩
  · exact f.names_nodup.sublist (List.filter_sublist.map _)

end Fragment

end TraitSchema
