import TraitSchema.Fragment
import TraitSchema.SchemaError

namespace TraitSchema

inductive EventLevel where
  | debug
  | info
  | warn
deriving DecidableEq, Repr

def EventLevel.tag : EventLevel → String
  | .debug => "DEBUG"
  | .info => "INFO"
  | .warn => "WARN"

inductive Event where
  | noSegments (adminType : AdminType)
  | noTraits (adminType : AdminType) (segment : String)
  | missingEntry (trait : String)
  | unresolvedType (trait : String) (tag : TypeTag)
  /-- A trait is declared again in the same way. -/
  | repeated (trait : String)
  /-- A trait is declared again in another way. -/
  | conflict (trait : String) (kept : Bucket)
  | emptyFragment (adminType : AdminType)
  | unexpectedExtension (path expected : String)
  | noSources (directory : String)
  | converting (adminType : AdminType) (path : String)
  | ignoredFile (file : String)
  | otherFile (file : String)
  | wroteSchema (definitions : Nat) (path : String)

namespace Event

def level : Event → EventLevel
  | .repeated _ | .ignoredFile _ | .otherFile _ => .debug
  | .converting _ _ | .wroteSchema _ _ => .info
  | _ => .warn

def text : Event → String
  | .noSegments adminType => "No segments declared admin_type=" ++ adminType.name
  | .noTraits adminType segment =>
    "Segment declares no traits admin_type=" ++ adminType.name ++ " segment=" ++ segment
  | .missingEntry trait => "No legacy support entry; no operations assumed trait_name=" ++ trait
  | .unresolvedType trait tag =>
    "Unresolved trait type trait_name=" ++ trait ++ " type_tag=" ++ tag.text
  | .repeated trait => "Repeated declaration ignored trait_name=" ++ trait
  | .conflict trait kept =>
    "Conflicting declaration ignored; first one kept trait_name=" ++ trait ++ " kept=" ++ kept.key
  | .emptyFragment adminType => "Empty schema fragment admin_type=" ++ adminType.name
  | .unexpectedExtension path expected => (SchemaError.unexpectedExtension path expected).message
  | .noSources directory => "No key-map sources found dir=" ++ directory
  | .converting adminType path =>
    "Converting key map admin_type=" ++ adminType.name ++ " path=" ++ path
  | .ignoredFile file => "Skipping ignored key map file=" ++ file
  | .otherFile file => "Skipping non key-map file file=" ++ file
  | .wroteSchema definitions path =>
    "Wrote master schema definitions=" ++ toString definitions ++ " output=" ++ path

def line (event : Event) : String := event.level.tag ++ " " ++ event.text

end Event

end TraitSchema
