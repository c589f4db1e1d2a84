import TraitSchema.TypeTag

namespace TraitSchema

def wildcard : Char := '*'

/-- The pattern for the varying part: one or more characters of names, at the end. -/
def familyPattern : String := "[a-zA-Z0-9@#$]+$"

/-- The name under which a schema lists a declared name. -/
def patternName (name : List Char) : List Char :=
  name.flatMap fun c => if c = wildcard then familyPattern.toList else [c]

structure Declaration where
  /-- The segment it belongs to, in lower case. -/
  segment : String
  name : String
  key : String
  tag : TypeTag
  operators : OperatorSet
deriving DecidableEq, Repr

namespace Declaration

def isWildcard (d : Declaration) : Bool := d.name.toList.contains wildcard

def propertyName (d : Declaration) : String := String.ofList (patternName d.name.toList)

def supportKey (d : Declaration) : String := String.ofList (Text.lower d.key.toList)

end Declaration

end TraitSchema
