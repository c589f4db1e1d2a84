import TraitSchema.Conformance.Definitions
import TraitSchema.Conformance.Report
import TraitSchema.Pattern.Check

namespace TraitSchema.Conformance

def listings (definitions : List TraitDefinition) : Table (Table (List String)) :=
  definitions.foldl (fun seen d =>
    (d.properties?.getD []).foldl (fun seen (trait, _) =>
      let traits := (seen.get? d.owner).getD []
      let names := (Table.get? traits trait).getD []
      seen.put d.owner (Table.put traits trait (names ++ [d.name]))) seen) []

def overlaps (doc : Json) : List String :=
  (listings (traitDefinitions doc)).flatMap fun (_, traits) =>
    (traits.filter fun (_, names) => 1 < names.length).map fun (trait, names) =>
      trait ++ ": " ++ ", ".intercalate names

/-- No trait is in two categories of one admin type. -/
def checkPartition (doc : Json) : Report :=
  let found := overlaps doc
  ⟨[.expectNone "schema/partition" "Every trait appears in exactly one category"
    (toString found.length ++ " traits appear in more than one category") found]⟩

def leakedCodes (doc : Json) : List String :=
  (traitDefinitions doc).flatMap fun d =>
    ((d.properties?.getD []).filter fun (_, entry) =>
      (entry.get? TraitEntry.codeKey).isSome).map fun (trait, _) => d.name ++ "." ++ trait

/-- No trait listed by name carries a code. -/
def checkCodes (doc : Json) : Report :=
  let found := leakedCodes doc
  ⟨[.expectNone "schema/operator-code" "No trait property retains an operator code"
    (toString found.length ++ " trait properties retain an operator code") found]⟩

/-- The name is that of a family of traits, as declared or as a pattern. -/
def isFamilyName (name : String) : Bool :=
  name.toList.contains wildcard || Text.occurs familyPattern.toList name.toList

def misplacedFamilies (doc : Json) : List String :=
  ((traitDefinitions doc).filter TraitDefinition.isValidated).flatMap fun d =>
    ((d.properties?.getD []).filter fun (trait, _) => isFamilyName trait).map fun (trait, _) =>
      d.name ++ "." ++ trait

/-- How a report describes a fault of a pattern; the reason why one cannot be read is left out. -/
def faultText : Pattern.Fault → String
  | .malformed => ""
  | .tooLarge limit =>
    ": Compiled regex exceeds size limit of " ++ toString limit ++ " bytes."

def invalidPatterns (doc : Json) : List String :=
  (traitDefinitions doc).flatMap fun d =>
    (d.patterns?.getD []).filterMap fun (pattern, _) =>
      (Pattern.fault? pattern).map fun fault => d.name ++ ": " ++ pattern ++ faultText fault

/-- Families are listed by valid patterns and never by name. -/
def checkWildcards (doc : Json) : Report :=
  let misplaced := misplacedFamilies doc
  let invalid := invalidPatterns doc
  ⟨[.expectNone "schema/wildcard" "No wildcard trait appears as a literal property"
      (toString misplaced.length ++ " wildcard traits listed as literal properties") misplaced,
    .expectNone "schema/wildcard" "All pattern properties are valid regular expressions"
      (toString invalid.length ++ " pattern properties do not compile") invalid]⟩

def closureKey : String := "additionalProperties"

def openDefinitions (definitions : List TraitDefinition) : List String :=
  (definitions.filter fun d =>
    d.isValidated && d.body.get? closureKey != some (.bool false)).map (·.name)

def restrictedDefinitions (definitions : List TraitDefinition) : List String :=
  (definitions.filter fun d => !d.isValidated && (d.body.get? closureKey).isSome).map (·.name)

/-- Definitions for requests are closed and those for documentation are open. -/
def checkClosure (doc : Json) : Report :=
  let check := "schema/closure"
  let definitions := traitDefinitions doc
  if definitions.isEmpty then ⟨[.warn check "No generated trait definitions found" []]⟩
  else
    let opened := openDefinitions definitions
    let restricted := restrictedDefinitions definitions
    ⟨[.expectNone check "All request categories set additionalProperties: false"
        (toString opened.length ++ " request categories accept unknown traits") opened,
      if restricted.isEmpty then
        .pass check "Extract-only definitions carry no additionalProperties restriction"
      else
        .warn check (toString restricted.length ++
          " extract-only definitions restrict additionalProperties") restricted]⟩

def resolves (available : Table Json) (target : String) : Bool :=
  match Text.after? SharedType.localStart.toList target.toList with
  | some name => available.holds (String.ofList name)
  | none => false

def danglingEntries (available : Table Json) (name : String) (entries : Table Json) :
    List String :=
  entries.filterMap fun (trait, entry) =>
    ((entry.get? "$ref").bind Json.text?).bind fun target =>
      if resolves available target then none
      else some (name ++ "." ++ trait ++ " -> " ++ target)

def danglingReferences (doc : Json) : List String :=
  let available := (allDefinitions? doc).getD []
  (traitDefinitions doc).flatMap fun d =>
    danglingEntries available d.name (d.properties?.getD []) ++
      danglingEntries available d.name (d.patterns?.getD [])

/-- Every reference leads to a definition. -/
def checkReferences (doc : Json) : Report :=
  let found := danglingReferences doc
  let unmapped := found.countP fun line => notApplicable.toList.isSuffixOf line.toList
  ⟨[.expectNone "schema/refs" "All trait type references resolve"
    (toString found.length ++ " trait type references do not resolve (" ++ toString unmapped ++
      " unmapped types)") found]⟩

def checks : List (Json → Report) :=
  [checkPartition, checkCodes, checkWildcards, checkClosure, checkReferences]

def validate (doc : Json) : Report :=
  checks.foldl (fun report check => report.append (check doc)) .empty

end TraitSchema.Conformance
