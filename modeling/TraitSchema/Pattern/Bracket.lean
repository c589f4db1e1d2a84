import TraitSchema.Pattern.Atom

namespace TraitSchema.Pattern

inductive SetFrame where
  | bracket (before : List ClassSet) (negated : Bool)
  | operation (op : SetOperation) (left : ClassSet)

def closeOperation (frames : List SetFrame) (right : ClassSet) : ClassSet × List SetFrame :=
  match frames with
  | .operation op left :: frames => (.operation op left right, frames)
  | frames => (right, frames)

/-- The start of a bracket: whether the set is negated, the signs that stand for themselves there,
and the text after them. Hyphens do so, and a closing bracket that is first. -/
def openBracket? (extended : Bool) (text : List Char) :
    Option (Bool × List ClassSet × List Char) :=
  let hyphens (negated : Bool) (text : List Char) :=
    match takeRun extended (· == '-') false text with
    | (_, []) => none
    | ([], ']' :: rest) =>
      match afterGap extended rest with
      | [] => none
      | rest => some (negated, [.single ⟨']', false⟩], rest)
    | (run, rest) => some (negated, run.map fun c => ClassSet.single ⟨c, false⟩, rest)
  match afterGap extended text with
  | [] => none
  | '^' :: rest => hyphens true rest
  | text => hyphens false text

def asciiClassNames : List String :=
  ["alnum", "alpha", "ascii", "blank", "cntrl", "digit", "graph", "lower", "print", "punct",
    "space", "upper", "word", "xdigit"]

def asciiClass? : List Char → Option (ClassSet × List Char)
  | ':' :: text => do
    let (negated, text) := match text with
      | '^' :: rest => (true, rest)
      | _ => (false, text)
    let name := String.ofList (text.takeWhile (· != ':'))
    let rest ← Text.after? [':', ']'] (text.dropWhile (· != ':'))
    if asciiClassNames.contains name then some (.ascii name negated, rest) else none
  | _ => none

def setAtom? (extended : Bool) : List Char → Option (Atom × List Char)
  | [] => none
  | '\\' :: rest => escape? extended rest
  | c :: rest => some (.literal ⟨c, false⟩, rest)

/-- The set that an atom stands for; assertions stand for none. -/
def setOfAtom? : Atom → Option ClassSet
  | .literal l => some (.single l)
  | .escape e negated => some (.escape e negated)
  | .property p negated => some (.property p negated)
  | .dot => none
  | .assertion _ => none

def rangeOrClass? (extended : Bool) (text : List Char) : Option (ClassSet × List Char) := do
  let (first, rest) ← setAtom? extended text
  match afterGap extended rest with
  | [] => none
  | '-' :: next =>
    let ahead := peekInSet extended next
    if ahead = some ']' ∨ ahead = some '-' then
      (setOfAtom? first).map fun set => (set, '-' :: next)
    else
      match ← setAtom? extended (afterGap extended next), first with
      | (.literal last, rest), .literal first =>
        if first.char ≤ last.char then some (.range first last, rest) else none
      | _, _ => none
  | rest => (setOfAtom? first).map fun set => (set, rest)

/-- The rest of a bracket. `frames` are open around what is read, the innermost first, and `before`
is what was read there, the last first. -/
def bracketRest? (extended : Bool) : (fuel : Nat) → (frames : List SetFrame) →
    (before : List ClassSet) → List Char → Option (Expr × List Char)
  | 0, _, _, _ => none
  | fuel + 1, frames, before, text =>
    let operation (op : SetOperation) (rest : List Char) :=
      let (left, frames) := closeOperation frames (.ofParts before.reverse)
      bracketRest? extended fuel (.operation op left :: frames) [] rest
    match afterGap extended text with
    | [] => none
    | '[' :: rest =>
      match asciiClass? rest with
      | some (set, rest) => bracketRest? extended fuel frames (set :: before) rest
      | none => do
        let (negated, inner, rest) ← openBracket? extended rest
        bracketRest? extended fuel (.bracket before negated :: frames) inner.reverse rest
    | ']' :: rest =>
      match closeOperation frames (.ofParts before.reverse) with
      | (set, [.bracket _ negated]) => some (.bracket negated set, rest)
      | (set, .bracket outer negated :: frames) =>
        bracketRest? extended fuel frames (.bracket negated set :: outer) rest
      | _ => none
    | '&' :: '&' :: rest => operation .intersection rest
    | '-' :: '-' :: rest => operation .difference rest
    | '~' :: '~' :: rest => operation .symmetricDifference rest
    | text => do
      let (set, rest) ← rangeOrClass? extended text
      bracketRest? extended fuel frames (set :: before) rest

def bracket? (extended : Bool) (text : List Char) : Option (Expr × List Char) := do
  let (negated, inner, rest) ← openBracket? extended text
  bracketRest? extended (rest.length + 1) [.bracket [] negated] inner.reverse rest

end TraitSchema.Pattern
