import TraitSchema.Aggregate
import TraitSchema.Text.Search

namespace TraitSchema.Conformance

/-- A definition of traits: its name is that of an admin type and then that of a bucket. -/
structure TraitDefinition where
  name : String
  owner : String
  bucket : Bucket
  body : Json

namespace TraitDefinition

/-- What a name is made of when it ends like that of the definition for a bucket. -/
def split? (name : String) (bucket : Bucket) : Option String :=
  bucket.suffix?.bind fun suffix =>
    match Text.withoutEnding? suffix.toList name.toList with
    | some (c :: owner) => some (String.ofList (c :: owner))
    | _ => none

def ofMember? (name : String) (body : Json) : Option TraitDefinition :=
  Bucket.all.findSome? fun bucket =>
    (split? name bucket).map fun owner => ⟨name, owner, bucket, body⟩

def properties? (d : TraitDefinition) : Option (Table Json) :=
  (d.body.get? "properties").bind Json.members?

def patterns? (d : TraitDefinition) : Option (Table Json) :=
  (d.body.get? "patternProperties").bind Json.members?

/-- Requests are checked against the definition. -/
def isValidated (d : TraitDefinition) : Bool := d.bucket != .extractOnly

end TraitDefinition

def allDefinitions? (doc : Json) : Option (Table Json) :=
  (doc.get? definitionsKey).bind Json.members?

def traitDefinitions (doc : Json) : List TraitDefinition :=
  ((allDefinitions? doc).getD []).filterMap fun (name, body) =>
    TraitDefinition.ofMember? name body

end TraitSchema.Conformance
