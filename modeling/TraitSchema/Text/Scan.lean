namespace TraitSchema.Text

/-- The things found from here on. The next `skip` characters belong to the last thing found, and
`before` is the character that stands before the text. -/
def scanFrom {α : Type} (read : Option Char → List Char → Option (α × List Char))
    (skip : Nat) (before : Option Char) : List Char → List α
  | [] => []
  | c :: rest =>
    match skip with
    | skip + 1 => scanFrom read skip (some c) rest
    | 0 =>
      match read before (c :: rest) with
      | some (x, left) => x :: scanFrom read (rest.length - left.length) (some c) rest
      | none => scanFrom read 0 (some c) rest

/-- The things that a reader finds in a text from left to right; the scan goes on right after each.
-/
def scan {α : Type} (read : Option Char → List Char → Option (α × List Char))
    (text : List Char) : List α :=
  scanFrom read 0 none text

def firstOnLine {α : Type} (f : List Char → Option α) : List Char → Option α
  | [] => none
  | c :: rest =>
    if c = '\n' then none
    else match f (c :: rest) with
      | some x => some x
      | none => firstOnLine f rest

def lastOnLine {α : Type} (f : List Char → Option α) : List Char → Option α
  | [] => none
  | c :: rest =>
    if c = '\n' then none
    else match lastOnLine f rest with
      | some x => some x
      | none => f (c :: rest)

end TraitSchema.Text
