import TraitSchema.KeyMap.Records
import TraitSchema.KeyMap.Segments
import TraitSchema.Traced

namespace TraitSchema

structure Conversion where
  mode : Mode
  adminType : AdminType
  matrix : SupportMatrix

namespace Conversion

/-- The operations that a declared trait supports; a trait that the matrix does not know supports
none. -/
def support (c : Conversion) (d : Declaration) : Traced OperationSet :=
  match classify c.adminType.supportRules c.matrix d with
  | .error error => .fail (.matrix error)
  | .ok (.supported ops) => .pure ops
  | .ok .unknown => do
    c.mode.violation (.missingEntry c.adminType d.segment d.supportKey) (.missingEntry d.name)
    return .empty

def placement (c : Conversion) (d : Declaration) (ops : OperationSet) : Placement :=
  let bucket := Bucket.ofSupport d ops c.adminType.policy
  ⟨d.propertyName, bucket, .ofDeclaration d bucket⟩

def place (c : Conversion) (f : Fragment) (d : Declaration) : Traced Fragment := do
  let p := c.placement d (← c.support d)
  if p.entry.type.isNone then
    c.mode.violation (.unresolvedType d.name d.tag) (.unresolvedType d.name d.tag)
  let (f, outcome) := f.insert p
  match outcome with
  | .inserted => return f
  | .duplicate => do
    Traced.report (.repeated d.name)
    return f
  | .conflict kept => do
    c.mode.violation (.collision c.adminType d.name) (.conflict d.name kept)
    return f

def placeSegment (c : Conversion) (declared : List Char) (f : Fragment) (segment : String) :
    Traced Fragment := do
  let traits := KeyMap.records segment declared
  if traits.isEmpty then Traced.report (.noTraits c.adminType segment)
  traits.foldlM c.place f

def placeSegments (c : Conversion) (declared : List Char) (segments : List String) :
    Traced Fragment :=
  segments.foldlM (c.placeSegment declared) (.empty c.adminType)

/-- The fragment of a key map and the number of segments that were read for it. -/
def run (c : Conversion) (source : List Char) : Traced (Fragment × Nat) := do
  let declared := KeyMap.declarations source
  let segments := KeyMap.segments c.adminType declared
  if segments.isEmpty then Traced.report (.noSegments c.adminType)
  let f ← c.placeSegments declared segments
  if f.traitCount = 0 then Traced.report (.emptyFragment c.adminType)
  return (f, segments.length)

end Conversion

end TraitSchema
