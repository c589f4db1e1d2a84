import TraitSchema.Json.Basic

namespace TraitSchema.Json

def uniteMembers (join : Json → Json → Json) (left right : Table Json) : Table Json :=
  right.foldl (fun merged (key, value) =>
    merged.put key (match merged.get? key with
      | some existing => join existing value
      | none => value)) left

/-- The union of two values. Objects are united member by member `depth` levels deep; where they
conflict, the right one counts. -/
def unite : (depth : Nat) → Json → Json → Json
  | depth + 1, .object left, .object right => .object (uniteMembers (unite depth) left right)
  | _, _, right => right

/-- The levels of a schema at which objects are united: the document, its sections, and the
entries of a section. -/
def schemaLevels : Nat := 3

def uniteSchemas (left right : Json) : Json := unite schemaLevels left right

end TraitSchema.Json
