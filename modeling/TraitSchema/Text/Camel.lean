import TraitSchema.Text.Case

namespace TraitSchema.Text

def raiseWords (atStart : Bool) : List Char → List Char
  | [] => []
  | c :: rest =>
    if c = '_' then raiseWords true rest
    else (if atStart then upperChar c else [c]) ++ raiseWords false rest

def pascalCase (name : List Char) : List Char := raiseWords true (lower name)

/-- Camel case with a small letter first: `group_connection` becomes `groupConnection`. -/
def camelCase (name : List Char) : List Char :=
  match pascalCase name with
  | [] => []
  | c :: rest => lowerChar c ++ rest

end TraitSchema.Text
