import TraitSchema.Operation
import TraitSchema.Text.Camel
import TraitSchema.Text.Search
import TraitSchema.Text.Space

namespace TraitSchema

structure AdminType where
  name : String
deriving DecidableEq, Repr

namespace AdminType

/-- The admin type that a text names: the case does not count, nor does white space at the ends,
and a space stands for an underscore. -/
def ofText (text : String) : AdminType :=
  let name := Text.lower (Text.trim text.toList)
  ⟨String.ofList (name.map fun c => if c = ' ' then '_' else c)⟩

def isOptions (t : AdminType) : Bool := t.name == "racf_options"

def isPermission (t : AdminType) : Bool := t.name == "permission"

/-- Options, permissions and group connections are never added as such. -/
def policy (t : AdminType) : OperationPolicy :=
  if t.isOptions || t.isPermission || t.name == "group_connection" then .alterExtract else .full

def token (t : AdminType) : List Char := Text.upper t.name.toList

def camelName (t : AdminType) : String := String.ofList (Text.camelCase t.name.toList)

/-- The short code that names its support matrix: the first letter unless that would clash. -/
def supportCode (t : AdminType) : String :=
  match t.name with
  | "group_connection" => "gc"
  | "permission" => "perm"
  | "racf_options" => "s"
  | "resource" => "p"
  | name => String.ofList (name.toList.take 1)

def supportFile (t : AdminType) : String := t.supportCode ++ "_admin.json"

def keyMapStart : List Char := "key_map_".toList

/-- The admin type that a key map is for: its file name has it between the common start and the
first dot. -/
def ofFileName? (fileName : String) : Option AdminType :=
  match Text.after? keyMapStart fileName.toList with
  | none => none
  | some rest =>
    match rest.takeWhile (· != '.') with
    | [] => none
    | name => some (ofText (String.ofList name))

end AdminType

end TraitSchema
