import TraitSchema.AdminType
import TraitSchema.Declaration
import TraitSchema.Json.Basic

namespace TraitSchema

inductive Bucket where
  | addOnly
  | alterOnly
  | common
  | extractOnly
  | pattern
deriving DecidableEq, Repr

namespace Bucket

def all : List Bucket := [.addOnly, .alterOnly, .common, .extractOnly, .pattern]

def key : Bucket → String
  | .addOnly => "addOnlyTraits"
  | .alterOnly => "alterOnlyTraits"
  | .common => "commonTraits"
  | .extractOnly => "extractOnlyTraits"
  | .pattern => "patternProperties"

def suffix? : Bucket → Option String
  | .addOnly => some "AddOnlyTraits"
  | .alterOnly => some "AlterOnlyTraits"
  | .common => some "CommonTraits"
  | .extractOnly => some "ExtractOnlyTraits"
  | .pattern => none

/-- The bucket for a trait that supports these operations. A trait that can only be read is
documented, even if it is a family. -/
def ofSupport (d : Declaration) (ops : OperationSet) (policy : OperationPolicy) : Bucket :=
  if ops = .extractOnly then .extractOnly
  else if d.isWildcard then .pattern
  else if !policy.permits .add then .common
  else match ops.add, ops.alter with
    | true, false => .addOnly
    | false, true => .alterOnly
    | _, _ => .common

end Bucket

structure TraitEntry where
  key : String
  /-- The definition of its values; none if the tag has no known kind. -/
  type : Option SharedType
  pseudoBoolean : Bool
  /-- The code of tag and operators; none for traits that can only be read. -/
  code : Option String
deriving DecidableEq, Repr

namespace TraitEntry

def codeKey : String := "operatorCode"

def ofDeclaration (d : Declaration) (bucket : Bucket) : TraitEntry where
  key := d.key
  type := SharedType.ofTag? d.tag d.operators
  pseudoBoolean := d.tag.isPseudoBoolean
  code := if bucket = .extractOnly then none else some (operatorCode d.tag d.operators)

def toJson (entry : TraitEntry) (withCode : Bool) : Json :=
  let mark := if entry.pseudoBoolean then [("pseudoBoolean", Json.bool true)] else []
  let code := match entry.code with
    | some code => if withCode then [(codeKey, Json.string code)] else []
    | none => []
  Json.ofMembers ([("racfKey", .string entry.key),
    ("$ref", .string (SharedType.reference entry.type))] ++ mark ++ code)

end TraitEntry

structure Placement where
  name : String
  bucket : Bucket
  entry : TraitEntry
deriving DecidableEq, Repr

inductive InsertOutcome where
  | inserted
  | duplicate
  /-- Something else stood under the name, in this bucket, and stays. -/
  | conflict (existing : Bucket)
deriving DecidableEq, Repr

/-- The traits of an admin type in the order in which they came, each name once. -/
structure Fragment where
  adminType : AdminType
  placements : List Placement
  names_nodup : (placements.map (·.name)).Nodup

namespace Fragment

def empty (adminType : AdminType) : Fragment := ⟨adminType, [], List.nodup_nil⟩

def find? (f : Fragment) (name : String) : Option Placement :=
  f.placements.find? fun p => p.name == name

def locate (f : Fragment) (name : String) : Option Bucket := (f.find? name).map (·.bucket)

theorem find?_eq_none {f : Fragment} {name : String} (h : f.find? name = none) :
    name ∉ f.placements.map (·.name) := by
  intro hm
  obtain ⟨p, hp, he⟩ := List.mem_map.mp hm
  simpa [he] using List.find?_eq_none.mp h p hp

/-- Places a trait unless its name is taken. -/
def insert (f : Fragment) (p : Placement) : Fragment × InsertOutcome :=
  match h : f.find? p.name with
  | some first => (f, if first = p then .duplicate else .conflict first.bucket)
  | none =>
    (⟨f.adminType, f.placements ++ [p], by
      rw [List.map_append, List.nodup_append]
      refine ⟨f.names_nodup, by simp, ?_⟩
      intro a ha b hb hab
      simp only [List.map_cons, List.map_nil, List.mem_singleton] at hb
      exact find?_eq_none h (hb ▸ hab ▸ ha)⟩, .inserted)

def bucket (f : Fragment) (b : Bucket) : Table TraitEntry :=
  Table.ofList ((f.placements.filter fun p => p.bucket = b).map fun p => (p.name, p.entry))

def traitCount (f : Fragment) : Nat := f.placements.length

def unresolved (f : Fragment) : List String :=
  (f.placements.filter fun p => p.entry.type.isNone).map (·.name)

/-- The buckets that a fragment of the admin type is written with: one that is never added has
none for adding or altering alone. -/
def shownBuckets (policy : OperationPolicy) : List Bucket :=
  Bucket.all.filter fun b => policy.permits .add || !(b == .addOnly || b == .alterOnly)

def toJson (f : Fragment) : Json :=
  Json.ofMembers ((shownBuckets f.adminType.policy).map fun b =>
    (b.key, .object ((f.bucket b).mapValues fun entry => entry.toJson true)))

end Fragment

end TraitSchema
