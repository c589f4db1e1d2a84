import TraitSchema.Text.Space

namespace TraitSchema.Pattern

def dropGap (inComment : Bool) : List Char → List Char
  | [] => []
  | c :: rest =>
    if inComment then dropGap (c != '\n') rest
    else if Text.isSpace c then dropGap false rest
    else if c = '#' then dropGap true rest
    else c :: rest

/-- The text after its gap. Only extended patterns have gaps: white space and comments up to the end
of a line, which may stand between any two characters and count for nothing. -/
def afterGap (extended : Bool) (text : List Char) : List Char :=
  if extended then dropGap false text else text

def takeRun (extended : Bool) (p : Char → Bool) (inComment : Bool) :
    List Char → List Char × List Char
  | [] => ([], [])
  | c :: rest =>
    if inComment then takeRun extended p (c != '\n') rest
    else if extended && Text.isSpace c then takeRun extended p false rest
    else if extended && c == '#' then takeRun extended p true rest
    else if p c then
      let (run, rest) := takeRun extended p false rest
      (c :: run, rest)
    else ([], c :: rest)

/-- The character that stands next in a set, where in extended patterns white space and one comment
sign are looked through. -/
def peekInSet (extended : Bool) (text : List Char) : Option Char :=
  if extended then
    let seen := match text.dropWhile Text.isSpace with
      | '#' :: rest => rest.dropWhile Text.isSpace
      | rest => rest
    seen.head? <|> text.head?
  else text.head?

end TraitSchema.Pattern
