import TraitSchema.Traced

namespace TraitSchema

structure Config where
  keyMapDir : String := "sear/key_map"
  supportDir : String := "dev_tools/old_json"
  baseSchema : String := "schemas/parameters.json"
  output : String := "schemas/sear_schema.json"
  fragmentsDir : Option String := none
  /-- The files among the key maps that are none. -/
  ignored : List String := ["key_map.cpp", "key_map.hpp", "key_map_structs.hpp"]
  mode : Mode := .strict
deriving DecidableEq, Repr

namespace Config

def isIgnored (config : Config) (fileName : String) : Bool := config.ignored.contains fileName

inductive Setting where
  | text (s : String)
  | flag (b : Bool)
  | texts (ss : List String)
deriving DecidableEq, Repr

/-- The settings with the one under the key replaced; none if there is no such key or the value is
of the wrong kind. -/
def set? (config : Config) : (key : String) → Setting → Option Config
  | "key_map_dir", .text s => some { config with keyMapDir := s }
  | "legacy_dir", .text s => some { config with supportDir := s }
  | "base_schema", .text s => some { config with baseSchema := s }
  | "output", .text s => some { config with output := s }
  | "fragments_dir", .text s => some { config with fragmentsDir := some s }
  | "ignore", .texts ss => some { config with ignored := ss }
  | "strict", .flag b => some { config with mode := if b then .strict else .lenient }
  | _, _ => none

end Config

end TraitSchema
