import Mathlib.Data.List.Forall2
import TraitSchema.Conformance.Checks

namespace TraitSchema.Conformance

def bucketEndings : List (Bucket × String) :=
  [(.addOnly, "AddOnlyTraits"), (.alterOnly, "AlterOnlyTraits"), (.common, "CommonTraits"),
    (.extractOnly, "ExtractOnlyTraits")]

/-- The schema has a definition of traits: its name is that of an owner and ends for a bucket. -/
def Defines (doc : Json) (d : TraitDefinition) : Prop :=
  ∃ definitions, doc.get? "$defs" = some (.object definitions) ∧ (d.name, d.body) ∈ definitions ∧
    d.owner ≠ "" ∧ ∃ ending, (d.bucket, ending) ∈ bucketEndings ∧ d.name = d.owner ++ ending

/-- What a part of a definition holds under a name. -/
structure DefinedEntry where
  definition : TraitDefinition
  part : String
  trait : String
  entry : Json

def DefinedEntry.IsIn (e : DefinedEntry) (doc : Json) : Prop :=
  Defines doc e.definition ∧ ∃ entries, e.definition.body.get? e.part = some (.object entries) ∧
    (e.trait, e.entry) ∈ entries

def HasDefinition (doc : Json) (name : String) : Prop :=
  ∃ definitions, doc.get? "$defs" = some (.object definitions) ∧ name ∈ Table.names definitions

/-- The name is that of a family, as declared or as a pattern. -/
def NamesFamily (name : String) : Prop :=
  '*' ∈ name.toList ∨ "[a-zA-Z0-9@#$]+$".toList <:+: name.toList

/-- The value refers to a definition that the schema does not have. -/
def Dangles (doc value : Json) (target : String) : Prop :=
  value.get? "$ref" = some (.string target) ∧
    ¬ ∃ name, target = "#/$defs/" ++ name ∧ HasDefinition doc name

/-- A schema that requests can be checked against. -/
structure Conforms (doc : Json) : Prop where
  partitioned : ∀ e e' : DefinedEntry, e.IsIn doc → e'.IsIn doc → e.part = "properties" →
    e'.part = "properties" → e.definition.owner = e'.definition.owner → e.trait = e'.trait →
      e.definition.name = e'.definition.name
  uncoded : ∀ e : DefinedEntry, e.IsIn doc → e.part = "properties" →
    e.entry.get? "operatorCode" = none
  literal : ∀ e : DefinedEntry, e.IsIn doc → e.part = "properties" →
    e.definition.bucket ≠ .extractOnly → ¬ NamesFamily e.trait
  valid : ∀ e : DefinedEntry, e.IsIn doc → e.part = "patternProperties" →
    Pattern.fault? e.trait = none
  closed : ∀ d, Defines doc d → d.bucket ≠ .extractOnly →
    d.body.get? "additionalProperties" = some (.bool false)
  resolved : ∀ e : DefinedEntry, e.IsIn doc → e.part = "properties" ∨ e.part = "patternProperties" →
    ∀ target, ¬ Dangles doc e.entry target

/-- A requirement, and how a report speaks of it. -/
structure Requirement (α : Type) where
  check : String
  severity : Severity
  passed : String
  failed : Nat → List String → String
  Offends : Json → α → Prop
  Says : Json → α → String → Prop

/-- The result is the one for the requirement: it lists all that offends, each once, and counts it,
and it passes if nothing does. -/
def Requirement.Settles {α : Type} (q : Requirement α) (doc : Json) (r : CheckResult) : Prop :=
  ∃ offenders details, offenders.Nodup ∧ (∀ o, o ∈ offenders ↔ q.Offends doc o) ∧
    List.Forall₂ (q.Says doc) offenders details ∧
    r = if offenders = [] then .pass q.check q.passed
      else ⟨q.check, q.severity, q.failed offenders.length details, details⟩

/-- The definitions of an owner that list a trait, in the order of their names. -/
def Listers (doc : Json) (owner trait : String) (names : List String) : Prop :=
  names.Pairwise (· < ·) ∧ ∀ name, name ∈ names ↔
    ∃ e : DefinedEntry, e.IsIn doc ∧ e.part = "properties" ∧ e.definition.owner = owner ∧
      e.trait = trait ∧ e.definition.name = name

/-- No trait is in two definitions of an owner. -/
def partition : Requirement (String × String) where
  check := "schema/partition"
  severity := .failure
  passed := "Every trait appears in exactly one category"
  failed n _ := toString n ++ " traits appear in more than one category"
  Offends doc o := ∃ e e' : DefinedEntry, e.IsIn doc ∧ e'.IsIn doc ∧ e.part = "properties" ∧
    e'.part = "properties" ∧ e.definition.owner = o.1 ∧ e'.definition.owner = o.1 ∧
      e.trait = o.2 ∧ e'.trait = o.2 ∧ e.definition.name ≠ e'.definition.name
  Says doc o line := ∃ names, Listers doc o.1 o.2 names ∧
    line = o.2 ++ ": " ++ ", ".intercalate names

/-- No trait listed by name carries a code. -/
def codeless : Requirement DefinedEntry where
  check := "schema/operator-code"
  severity := .failure
  passed := "No trait property retains an operator code"
  failed n _ := toString n ++ " trait properties retain an operator code"
  Offends doc e := e.IsIn doc ∧ e.part = "properties" ∧ e.entry.get? "operatorCode" ≠ none
  Says _ e line := line = e.definition.name ++ "." ++ e.trait

/-- No definition for requests lists a family by name. -/
def literalNames : Requirement DefinedEntry where
  check := "schema/wildcard"
  severity := .failure
  passed := "No wildcard trait appears as a literal property"
  failed n _ := toString n ++ " wildcard traits listed as literal properties"
  Offends doc e := e.IsIn doc ∧ e.part = "properties" ∧ e.definition.bucket ≠ .extractOnly ∧
    NamesFamily e.trait
  Says _ e line := line = e.definition.name ++ "." ++ e.trait

/-- Every pattern is valid. -/
def validPatterns : Requirement DefinedEntry where
  check := "schema/wildcard"
  severity := .failure
  passed := "All pattern properties are valid regular expressions"
  failed n _ := toString n ++ " pattern properties do not compile"
  Offends doc e := e.IsIn doc ∧ e.part = "patternProperties" ∧ Pattern.fault? e.trait ≠ none
  Says _ e line := ∃ fault, Pattern.fault? e.trait = some fault ∧
    line = e.definition.name ++ ": " ++ e.trait ++ faultText fault

/-- Every definition for requests lets no other names in. -/
def closedRequests : Requirement TraitDefinition where
  check := "schema/closure"
  severity := .failure
  passed := "All request categories set additionalProperties: false"
  failed n _ := toString n ++ " request categories accept unknown traits"
  Offends doc d := Defines doc d ∧ d.bucket ≠ .extractOnly ∧
    d.body.get? "additionalProperties" ≠ some (.bool false)
  Says _ d line := line = d.name

/-- No definition for documentation restricts other names; one that does is warned of. -/
def openDocumentation : Requirement TraitDefinition where
  check := "schema/closure"
  severity := .warning
  passed := "Extract-only definitions carry no additionalProperties restriction"
  failed n _ := toString n ++ " extract-only definitions restrict additionalProperties"
  Offends doc d := Defines doc d ∧ d.bucket = .extractOnly ∧
    d.body.get? "additionalProperties" ≠ none
  Says _ d line := line = d.name

/-- Every reference of an entry leads to a definition. -/
def resolvedReferences : Requirement DefinedEntry where
  check := "schema/refs"
  severity := .failure
  passed := "All trait type references resolve"
  failed n lines := toString n ++ " trait type references do not resolve (" ++
    toString (lines.countP fun line => "N/A".toList.isSuffixOf line.toList) ++ " unmapped types)"
  Offends doc e := e.IsIn doc ∧ (e.part = "properties" ∨ e.part = "patternProperties") ∧
    ∃ target, Dangles doc e.entry target
  Says doc e line := ∃ target, Dangles doc e.entry target ∧
    line = e.definition.name ++ "." ++ e.trait ++ " -> " ++ target

end TraitSchema.Conformance
