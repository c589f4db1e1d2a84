import TraitSchema.Files.Error
import TraitSchema.Files.Path
import TraitSchema.Table

namespace TraitSchema

inductive FileNode where
  | file (content : ByteArray)
  | directory

def FileNode.isFile : FileNode → Bool
  | .file _ => true
  | .directory => false

/-- A tree of files by its places, each given by the names that lead to it from the root, which is a
directory. -/
structure FileTree where
  nodes : List (List String × FileNode)

namespace FileTree

def empty : FileTree := ⟨[]⟩

def get? (t : FileTree) (place : List String) : Option FileNode :=
  if place = [] then some .directory else t.nodes.lookup place

def put (t : FileTree) (place : List String) (node : FileNode) : FileTree :=
  ⟨(place, node) :: t.nodes.filter fun entry => entry.1 != place⟩

def erase (t : FileTree) (place : List String) : FileTree :=
  ⟨t.nodes.filter fun entry => !place.isPrefixOf entry.1⟩

/-- The place that the names lead to from a directory, whose own names are given in reverse. Every
name but the last must be that of a directory. -/
def walk (t : FileTree) (here : List String) : List String → Except FileError (List String)
  | [] => .ok here.reverse
  | ".." :: rest => walk t here.tail rest
  | [name] => .ok (name :: here).reverse
  | name :: rest =>
    match t.get? (name :: here).reverse with
    | none => .error .notFound
    | some (.file _) => .error .notDirectory
    | some .directory => walk t (name :: here) rest

/-- The place that a path leads to, which need not hold anything. -/
def resolve (t : FileTree) (path : String) : Except FileError (List String) :=
  if path = "" then .error .notFound else t.walk [] (Path.steps path)

def find (t : FileTree) (path : String) : Except FileError (List String × FileNode) := do
  let place ← t.resolve path
  match t.get? place with
  | none => .error .notFound
  | some (.file content) =>
    if Path.namesDirectory path then .error .notDirectory else .ok (place, .file content)
  | some .directory => .ok (place, .directory)

def readText (t : FileTree) (path : String) : Except FileError String := do
  match ← t.find path with
  | (_, .directory) => .error .isDirectory
  | (_, .file content) =>
    match String.fromUTF8? content with
    | some text => .ok text
    | none => .error .notText

/-- The tree in which a file holds these bytes. A path with a slash at its end is never that of a
file to write. -/
def write (t : FileTree) (path : String) (content : ByteArray) : Except FileError FileTree := do
  let place ← t.resolve path
  match t.get? place with
  | some .directory => .error .isDirectory
  | found =>
    if Path.endsInDot path then .error (if found.isSome then .notDirectory else .notFound)
    else if Path.namesDirectory path then .error .isDirectory
    else .ok (t.put place (.file content))

def makeDirectory (t : FileTree) (steps : List String) : Except FileError FileTree := do
  let place ← t.walk [] steps
  match t.get? place with
  | some _ => .error .alreadyExists
  | none => .ok (t.put place .directory)

def isDirectory (t : FileTree) (steps : List String) : Bool :=
  match t.walk [] steps with
  | .ok place => (t.get? place).any fun node => !node.isFile
  | .error _ => false

/-- Makes a directory where the names lead, which are given in reverse, and before it those that it
is to stand in, as far as they are missing. -/
def makeDirectories (t : FileTree) : List String → FileTree × Except FileError Unit
  | [] => (t, .ok ())
  | name :: above =>
    let steps := (name :: above).reverse
    match t.makeDirectory steps with
    | .ok t => (t, .ok ())
    | .error .notFound =>
      match t.makeDirectories above with
      | (t, .error e) => (t, .error e)
      | (t, .ok ()) =>
        match t.makeDirectory steps with
        | .ok t => (t, .ok ())
        | .error e => (t, if t.isDirectory steps then .ok () else .error e)
    | .error e => (t, if t.isDirectory steps then .ok () else .error e)

/-- The names in a directory and whether each is that of a file; none where the path is that of a
file. -/
def list (t : FileTree) (path : String) : Except FileError (Table Bool) := do
  match ← t.find path with
  | (_, .file _) => .ok []
  | (place, .directory) =>
    .ok (Table.ofList (t.nodes.filterMap fun (p, node) =>
      match p.reverse with
      | name :: above =>
        if above.reverse = place then some (name, node.isFile) else none
      | [] => none))

def files (t : FileTree) : Table ByteArray :=
  Table.ofList (t.nodes.filterMap fun (place, node) =>
    match node with
    | .file content => some ("/".intercalate place, content)
    | .directory => none)

end FileTree

end TraitSchema
