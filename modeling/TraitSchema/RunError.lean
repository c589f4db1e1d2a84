import TraitSchema.SchemaError

namespace TraitSchema

inductive RunError where
  | schema (e : SchemaError)
  | discovery (directory : String) (cause : FileError)
  | matrix (adminType : AdminType) (e : SchemaError)
  | unreadable (path : String) (cause : FileError)
  | conversion (path : String) (e : SchemaError)
  | configuration (path : String) (e : SchemaError)
  | unparsable (path : String)

/-- The error and its causes, from the outside in. Why a text is no JSON is left out. -/
def SchemaError.chain : SchemaError → List String
  | .file path cause => [(SchemaError.file path cause).message, cause.message]
  | e => [e.message]

namespace RunError

/-- The error and its causes, from the outside in. -/
def chain : RunError → List String
  | .schema e => e.chain
  | .discovery directory cause =>
    ["Failed to read " ++ directory,
      "IO error for operation on " ++ directory ++ ": " ++ cause.message, cause.message]
  | .matrix adminType e => ("Failed to load legacy matrix for " ++ adminType.name) :: e.chain
  | .unreadable path cause => ["Failed to read " ++ path, cause.message]
  | .conversion path e => ("Failed to convert " ++ path) :: e.chain
  | .configuration path e => ("Failed to load configuration " ++ path) :: e.chain
  | .unparsable path => ["Failed to parse " ++ path ++ " as JSON"]

def message (e : RunError) : String := e.chain.headD ""

def schemaError? : RunError → Option SchemaError
  | .schema e | .matrix _ e | .conversion _ e | .configuration _ e => some e
  | .discovery _ _ | .unreadable _ _ | .unparsable _ => none

end RunError

end TraitSchema
