import TraitSchema.Fragment

namespace TraitSchema

def definitionsKey : String := "$defs"

namespace Fragment

def listing (f : Fragment) (b : Bucket) (withCode : Bool) : Json :=
  .object ((f.bucket b).mapValues fun entry => entry.toJson withCode)

def hasPatterns (f : Fragment) : Bool := !(f.bucket .pattern).isEmpty

def closedBody (f : Fragment) (b : Bucket) : Json :=
  let patterns := if f.hasPatterns then [("patternProperties", f.listing .pattern true)] else []
  Json.ofMembers ([("properties", f.listing b false)] ++ patterns ++
    [("additionalProperties", .bool false)])

def openBody (f : Fragment) : Json :=
  Json.ofMembers [("properties", f.listing .extractOnly false)]

/-- The buckets of a fragment that become definitions: those with traits, and the common one also
for the sake of patterns. -/
def definedBuckets (f : Fragment) : List Bucket :=
  [Bucket.addOnly, .alterOnly, .common, .extractOnly].filter fun b =>
    !(f.bucket b).isEmpty || (b == .common && f.hasPatterns)

def body (f : Fragment) (b : Bucket) : Json :=
  if b = .extractOnly then f.openBody else f.closedBody b

def definitionName (adminType : AdminType) (b : Bucket) : String :=
  adminType.camelName ++ b.suffix?.getD ""

def definitions (f : Fragment) : List (String × Json) :=
  f.definedBuckets.map fun b => (definitionName f.adminType b, f.body b)

def codes (f : Fragment) : List String :=
  (f.placements.filter fun p => p.bucket ≠ .extractOnly).filterMap (·.entry.code)

end Fragment

/-- The definitions of several fragments, each named for an admin type and a bucket, and the codes
seen in them. -/
structure Aggregate where
  definitions : Table Json
  codes : Table Unit
deriving Inhabited

namespace Aggregate

def empty : Aggregate := ⟨[], []⟩

/-- Adds a fragment; a definition of the same name is replaced. -/
def add (a : Aggregate) (f : Fragment) : Aggregate where
  definitions := f.definitions.foldl (fun t (name, body) => t.put name body) a.definitions
  codes := f.codes.foldl (fun t code => t.put code ()) a.codes

def ofFragments (fragments : List Fragment) : Aggregate := fragments.foldl add empty

def document (a : Aggregate) : Json := .object [(definitionsKey, .object a.definitions)]

end Aggregate

end TraitSchema
