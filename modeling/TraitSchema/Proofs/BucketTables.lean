import Mathlib.Algebra.Ring.Nat
import TraitSchema.Proofs.DefinitionBodies

namespace TraitSchema

/-- The traits of an admin type as they are kept while they come in: a table for each bucket and,
apart from the tables, the names of the traits whose tag has no known kind. -/
structure BucketTables where
  adminType : AdminType
  table : Bucket → Table TraitEntry
  unresolved : List String

namespace BucketTables

def empty (t : AdminType) : BucketTables := ⟨t, fun _ => [], []⟩

/-- The first bucket whose table has the name. -/
def locate (s : BucketTables) (name : String) : Option Bucket :=
  Bucket.all.find? fun b => (s.table b).holds name

def traitCount (s : BucketTables) : Nat := (Bucket.all.map fun b => (s.table b).length).sum

def put (s : BucketTables) (p : Placement) : BucketTables where
  adminType := s.adminType
  table b := if b = p.bucket then (s.table b).put p.name p.entry else s.table b
  unresolved := s.unresolved ++ if p.entry.type.isNone then [p.name] else []

/-- Puts a trait in the table of its bucket unless one of the tables has its name. -/
def insert (s : BucketTables) (p : Placement) : BucketTables × InsertOutcome :=
  match s.locate p.name with
  | some existing =>
    (s, if existing = p.bucket ∧ (s.table existing).get? p.name = some p.entry then .duplicate
      else .conflict existing)
  | none => (s.put p, .inserted)

def insertAll (s : BucketTables) (ps : List Placement) : BucketTables :=
  ps.foldl (fun s p => (s.insert p).1) s

theorem insert_of_some {s : BucketTables} {p : Placement} {b : Bucket}
    (h : s.locate p.name = some b) :
    s.insert p = (s, if b = p.bucket ∧ (s.table b).get? p.name = some p.entry then .duplicate
      else .conflict b) := by
  rw [insert, h]

theorem insert_of_none {s : BucketTables} {p : Placement} (h : s.locate p.name = none) :
    s.insert p = (s.put p, .inserted) := by
  rw [insert, h]

end BucketTables

theorem Placement.ext_iff_of_name {p q : Placement} (h : p.name = q.name) :
    p = q ↔ p.bucket = q.bucket ∧ p.entry = q.entry := by
  obtain ⟨name, bucket, entry⟩ := p
  obtain ⟨name', bucket', entry'⟩ := q
  cases h
  simp

theorem Bucket.find?_all (b : Bucket) : (Bucket.all.find? fun c => b = c) = some b := by
  cases b <;> rfl

namespace Fragment

def tables (f : Fragment) : BucketTables := ⟨f.adminType, f.bucket, f.unresolved⟩

theorem tables_empty (t : AdminType) : (empty t).tables = .empty t := rfl

theorem holds_bucket (f : Fragment) (b : Bucket) (name : String) :
    (f.bucket b).holds name = (f.find? name).any fun p => p.bucket = b := by
  rw [Table.holds, get?_bucket, Option.isSome_map]
  cases f.find? name with
  | none => rfl
  | some p => by_cases hb : p.bucket = b <;> simp [hb]

theorem locate_tables (f : Fragment) (name : String) : f.tables.locate name = f.locate name := by
  rw [BucketTables.locate, locate]
  simp only [tables, holds_bucket]
  cases f.find? name with
  | none => rfl
  | some p => exact Bucket.find?_all p.bucket

theorem length_bucket (f : Fragment) (b : Bucket) :
    (f.bucket b).length = f.placements.countP fun p => p.bucket = b := by
  rw [bucket, (Table.perm_ofList (f.names_placed_nodup b)).length_eq, List.length_map,
    List.countP_eq_length_filter]

theorem traitCount_tables (f : Fragment) : f.tables.traitCount = f.traitCount := by
  simp only [BucketTables.traitCount, tables, length_bucket, traitCount]
  -- each placement is counted in one table, that of its bucket
  induction f.placements with
  | nil => rfl
  | cons p ps ih =>
    simp only [Bucket.all, List.map_cons, List.map_nil, List.sum_cons, List.sum_nil,
      List.countP_cons, List.length_cons] at ih ⊢
    cases p.bucket <;> simp <;> omega

theorem tables_of_placements {f g : Fragment} {p : Placement} (ht : g.adminType = f.adminType)
    (hp : g.placements = f.placements ++ [p]) : g.tables = f.tables.put p := by
  have hbucket : g.bucket = (f.tables.put p).table := by
    funext b
    rw [bucket, hp, List.filter_append, List.map_append, Table.ofList, List.foldl_append,
      ← Table.ofList]
    by_cases hb : p.bucket = b
    · simp [BucketTables.put, tables, bucket, hb]
    · simp [BucketTables.put, tables, bucket, hb, Ne.symm hb]
  have hunresolved : g.unresolved = (f.tables.put p).unresolved := by
    rw [unresolved, hp, List.filter_append, List.map_append]
    cases htype : p.entry.type.isNone <;> simp [BucketTables.put, tables, unresolved, htype]
  rw [tables, ht, hbucket, hunresolved]
  rfl

/-- The tables of a fragment stay in step with it at an insertion, and answer as it does. -/
theorem insert_tables (f : Fragment) (p : Placement) :
    f.tables.insert p = ((f.insert p).1.tables, (f.insert p).2) := by
  have hlocate := f.locate_tables p.name
  rw [locate] at hlocate
  cases hf : f.find? p.name with
  | none =>
    rw [hf] at hlocate
    obtain ⟨ht, hplacements, hanswer⟩ := insert_of_new hf
    rw [BucketTables.insert_of_none hlocate, tables_of_placements ht hplacements, hanswer]
  | some first =>
    rw [hf] at hlocate
    -- the table that has the name has the entry of its first placement
    have hentry : (f.tables.table first.bucket).get? p.name = some first.entry :=
      (f.get?_bucket first.bucket p.name).trans (by simp [hf])
    rw [BucketTables.insert_of_some hlocate, insert_of_taken hf, hentry]
    simp only [Option.some.injEq, Placement.ext_iff_of_name (name_of_find? hf)]

/-- The tables that a run of insertions fills one after the other are those of the fragment. -/
theorem tables_insertAll (f : Fragment) (ps : List Placement) :
    (f.insertAll ps).tables = f.tables.insertAll ps := by
  induction ps generalizing f with
  | nil => rfl
  | cons p ps ih =>
    refine (ih (f.insert p).1).trans ?_
    rw [BucketTables.insertAll, BucketTables.insertAll, List.foldl_cons, insert_tables]

end Fragment

end TraitSchema
