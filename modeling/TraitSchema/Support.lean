import TraitSchema.AdminType
import TraitSchema.Declaration
import TraitSchema.Json.Basic
import TraitSchema.Text.Quoted

namespace TraitSchema

structure SupportEntry where
  add : Bool
  alter : Bool
  extract : Bool
deriving DecidableEq, Repr

inductive FlagFault where
  | mistyped (value : Json)
  /-- The flag for altering is given under both of its keys. -/
  | duplicate

inductive MatrixFault where
  | notObject
  | segmentNotObject (segment : String)
  | badRecord (segment key source : String) (fault : FlagFault)

def Json.describe : Json → String
  | .null => "null"
  | .bool b => "boolean `" ++ toString b ++ "`"
  | .number (.whole n) => "integer `" ++ toString n ++ "`"
  | .number (.binary x) => "floating point `" ++ x.text ++ "`"
  | .string s => "string " ++ Text.quoted s
  | .array _ => "sequence"
  | .object _ => "map"

def FlagFault.message : FlagFault → String
  | .mistyped value => "invalid type: " ++ value.describe ++ ", expected a boolean"
  | .duplicate => "duplicate field `alt`"

def MatrixFault.message : MatrixFault → String
  | .notObject => "top level is not an object"
  | .segmentNotObject segment => "segment " ++ segment ++ " is not an object"
  | .badRecord segment key source fault =>
    segment ++ "." ++ key ++ "." ++ source ++ ": " ++ fault.message

structure MatrixError where
  adminType : AdminType
  fault : MatrixFault

/-- A support matrix by what it answers: the records for a segment and key, or nothing when it
does not know the trait. Its errors name the admin type it is a matrix of. -/
structure SupportMatrix where
  entries : (segment key : String) → Except MatrixError (Option (List SupportEntry))

namespace SupportEntry

def flag? (members : Table Json) (key : String) : Except FlagFault (Option Bool) :=
  match members.get? key with
  | none => .ok none
  | some (.bool b) => .ok (some b)
  | some value => .error (.mistyped value)

/-- The record that an object stands for. Its flags are read in the order of their keys, and the
flag for altering has two keys. -/
def ofMembers (members : Table Json) : Except FlagFault SupportEntry := do
  let add ← flag? members "add"
  let alt ← flag? members "alt"
  if alt.isSome && members.holds "alter" then throw .duplicate
  let alter ← flag? members "alter"
  let extract ← flag? members "extract"
  return ⟨add.getD false, (alt <|> alter).getD false, extract.getD false⟩

/-- The object is a record of operations and not some other part of a matrix. -/
def isRecord (value : Json) : Bool := (value.get? "extract").isSome

end SupportEntry

/-- A document read as a matrix: by segment, then by key. -/
abbrev MatrixDocument := Table (Table Json)

namespace MatrixDocument

def ofJson : Json → Except MatrixFault MatrixDocument
  | .object segments => segments.mapM fun (segment, value) =>
    match value with
    | .object keys => .ok (segment, keys)
    | _ => .error (.segmentNotObject segment)
  | _ => .error .notObject

def entries (document : MatrixDocument) (segment key : String) :
    Except MatrixFault (Option (List SupportEntry)) :=
  match (document.get? segment).bind fun keys => Table.get? keys key with
  | some (.object sources) =>
    let records := sources.filter fun source => SupportEntry.isRecord source.2
    some <$> records.mapM fun (source, value) =>
      (SupportEntry.ofMembers (value.members?.getD [])).mapError (.badRecord segment key source)
  | _ => .ok none

def matrix (document : MatrixDocument) (owner : AdminType) : SupportMatrix where
  entries segment key := (document.entries segment key).mapError (.mk owner)

end MatrixDocument

structure SupportRow where
  segment : String
  key : String
  entry : SupportEntry
deriving DecidableEq, Repr

def SupportMatrix.ofRows (rows : List SupportRow) : SupportMatrix where
  entries segment key :=
    match rows.filter fun row => row.segment == segment && row.key == key with
    | [] => .ok none
    | found => .ok (some (found.map (·.entry)))

structure SupportRules where
  policy : OperationPolicy
  /-- Every trait with operators can be altered and read. -/
  isOptions : Bool
  isPermission : Bool
deriving DecidableEq, Repr

def AdminType.supportRules (t : AdminType) : SupportRules := ⟨t.policy, t.isOptions, t.isPermission⟩

/-- The operations that the records give, each as soon as one record gives it. -/
def SupportRules.resolve (rules : SupportRules) (entries : List SupportEntry) : OperationSet where
  add := entries.any fun entry => rules.policy.permits .add && entry.add
  alter := entries.any fun entry => entry.alter || rules.isOptions || rules.isPermission
  extract := entries.any fun entry => entry.extract || rules.isOptions

inductive Classification where
  | supported (ops : OperationSet)
  | unknown
deriving DecidableEq, Repr

/-- The operations that a declared trait supports. The matrix is asked only about traits with
operators. -/
def classify (rules : SupportRules) (matrix : SupportMatrix) (d : Declaration) :
    Except MatrixError Classification :=
  if d.operators.isEmpty then .ok (.supported .extractOnly)
  else
    (matrix.entries d.segment d.supportKey).map fun
      | some entries => .supported (rules.resolve entries)
      | none => .unknown

end TraitSchema
