namespace TraitSchema.Path

def segments (path : String) : List (List Char) := path.toList.splitOn '/'

def isIdle (segment : List Char) : Bool := segment == [] || segment == ['.']

def steps (path : String) : List String :=
  ((segments path).filter fun s => !isIdle s).map String.ofList

def namesDirectory (path : String) : Bool := ((segments path).getLast?).any isIdle

/-- The last name of the path is one dot: it is looked for in a directory that has to be there. -/
def endsInDot (path : String) : Bool :=
  ((segments path).filter (· != [])).getLast? == some ['.']

def join (directory name : String) : String :=
  match name.toList with
  | '/' :: _ => name
  | _ =>
    if directory = "" ∨ directory.toList.getLast? = some '/' then directory ++ name
    else directory ++ "/" ++ name

/-- The directory that the last name of a path stands in; empty for a path of one name. -/
def parent (path : String) : String :=
  let start := match path.toList with
    | '/' :: _ => "/"
    | '.' :: '/' :: _ => "./"
    | _ => ""
  start ++ "/".intercalate (steps path).dropLast

/-- The ending of the last name of a path: what follows its last dot, unless that comes first. -/
def extension? (path : String) : Option String :=
  match (steps path).getLast? with
  | none => none
  | some name =>
    if name = ".." then none
    else
      let reversed := name.toList.reverse
      match reversed.dropWhile (· != '.') with
      | '.' :: _ :: _ => some (String.ofList (reversed.takeWhile (· != '.')).reverse)
      | _ => none

end TraitSchema.Path
