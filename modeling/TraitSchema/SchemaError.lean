import TraitSchema.Files.Error
import TraitSchema.Support

namespace TraitSchema

inductive SchemaError where
  | file (path : String) (cause : FileError)
  | json (path : String)
  | config (path : String)
  | matrix (error : MatrixError)
  | missingEntry (adminType : AdminType) (segment key : String)
  | unexpectedExtension (path expected : String)
  | unresolvedType (trait : String) (tag : TypeTag)
  | collision (adminType : AdminType) (trait : String)
  /-- The base schema is not an object whose definitions are one too. -/
  | baseSchema (path : String)

/-- The wording of an error. The reasons why a text is no JSON or no configuration are left out. -/
def SchemaError.message : SchemaError → String
  | .file path cause => "I/O error on " ++ path ++ ": " ++ cause.message
  | .json path => "JSON error in " ++ path
  | .config path => "Invalid configuration " ++ path
  | .matrix error =>
    "Malformed legacy support matrix for " ++ error.adminType.name ++ ": " ++ error.fault.message
  | .missingEntry adminType segment key =>
    "No legacy support entry for " ++ segment ++ ":" ++ key ++ " (" ++ adminType.name ++ ")"
  | .unexpectedExtension path expected => "Expected a ." ++ expected ++ " file, got " ++ path
  | .unresolvedType trait tag => "Trait " ++ trait ++ " has unresolvable type tag " ++ tag.text
  | .collision adminType trait =>
    "Conflicting declarations for trait " ++ trait ++ " in " ++ adminType.name
  | .baseSchema path =>
    "Invalid base schema " ++ path ++ ": expected an object with an object-valued $defs"

end TraitSchema
