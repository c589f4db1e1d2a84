import TraitSchema.Pattern.Bracket
import TraitSchema.Text.Alphabetic

namespace TraitSchema.Pattern

def countBound : Nat := Nat.pow 2 32

def count? (extended : Bool) (text : List Char) : Option (Nat × List Char) :=
  match takeRun extended Char.isDigit false (text.dropWhile Text.isSpace) with
  | ([], _) => none
  | (digits, rest) =>
    let n := digits.foldl (fun n d => 10 * n + (d.toNat - '0'.toNat)) 0
    if n < countBound then some (n, rest.dropWhile Text.isSpace) else none

/-- A question mark makes a repetition prefer less, which changes nothing here. -/
def skipLazy : List Char → List Char
  | '?' :: rest => rest
  | rest => rest

def bounds? (extended : Bool) (text : List Char) :
    Option ((Nat × Option Nat) × List Char) := do
  let (least, rest) ← count? extended (afterGap extended text)
  let (bounds, rest) ← match rest with
    | ',' :: rest =>
      match afterGap extended rest with
      | '\x7d' :: rest => some ((least, none), '\x7d' :: rest)
      | rest => (count? extended rest).map fun (most, rest) => ((least, some most), rest)
    | rest => some ((least, some least), rest)
  match rest with
  | '\x7d' :: rest =>
    if bounds.2.all (bounds.1 ≤ ·) then some (bounds, skipLazy (afterGap extended rest)) else none
  | _ => none

/-- The same parts with the last one repeated; flags cannot be repeated. -/
def repeatLast? (before : List Expr) (least : Nat) (most : Option Nat) : Option (List Expr) :=
  match before with
  | [] => none
  | .flags _ :: _ => none
  | e :: before => some (.repetition e least most :: before)

def isGroupNameChar (isFirst : Bool) (c : Char) : Bool :=
  c == '_' || (if isFirst then Text.isAlphabetic c
    else Text.isAlphanumeric c || c == '.' || c == '[' || c == ']')

def groupName? (text : List Char) : Option (String × List Char) :=
  match text.takeWhile (· != '>'), text.dropWhile (· != '>') with
  | c :: cs, '>' :: rest =>
    if isGroupNameChar true c && cs.all (isGroupNameChar false) then
      some (String.ofList (c :: cs), rest)
    else none
  | _, _ => none

def flagLetters : List Char := ['i', 'm', 's', 'U', 'u', 'R', 'x']

/-- The flags up to the sign that ends them: no letter twice, and after a minus sign at least one
letter. -/
def flags? (f : Flags) (negated : Bool) : List Char → Option (Flags × Char × List Char)
  | [] => none
  | c :: rest =>
    if c = ':' ∨ c = ')' then
      if negated && f.off.isEmpty then none else some (f, c, rest)
    else if c = '-' then
      if negated then none else flags? f true rest
    else if flagLetters.contains c && !f.on.contains c && !f.off.contains c then
      if negated then flags? ⟨f.on, f.off ++ [c]⟩ true rest
      else flags? ⟨f.on ++ [c], f.off⟩ false rest
    else none

inductive Opening where
  | capture (name : Option String)
  | plain (own : Flags)
  | setFlags (f : Flags)

def opening? (extended : Bool) (text : List Char) : Option (Opening × List Char) :=
  let named (rest : List Char) :=
    (groupName? rest).map fun (name, rest) => (Opening.capture (some name), rest)
  match afterGap extended text with
  | '?' :: '=' :: _ => none
  | '?' :: '!' :: _ => none
  | '?' :: '<' :: '=' :: _ => none
  | '?' :: '<' :: '!' :: _ => none
  | '?' :: 'P' :: '<' :: rest => named rest
  | '?' :: '<' :: rest => named rest
  | '?' :: rest => do
    match ← flags? ⟨[], []⟩ false rest with
    | (f, ')', rest) => if f = ⟨[], []⟩ then none else some (.setFlags f, rest)
    | (f, _, rest) => some (.plain f, rest)
  | rest => some (.capture none, rest)

/-- A group that is open around what is read: what stands before it, its own flags, and whether the
pattern around it is extended. -/
structure GroupFrame where
  alternatives : List Expr
  before : List Expr
  own : Option Flags
  extended : Bool

/-- How far a pattern has been read: the groups open, the innermost first; in the innermost one, the
finished alternatives and the parts of the current one, the last first; whether the pattern is
extended here; and the names of groups so far. -/
structure Progress where
  frames : List GroupFrame
  alternatives : List Expr
  before : List Expr
  extended : Bool
  names : List String

namespace Progress

def start : Progress := ⟨[], [], [], false, []⟩

def push (p : Progress) (e : Expr) : Progress := { p with before := e :: p.before }

def content (p : Progress) : Expr :=
  let last := Expr.ofParts p.before.reverse
  match p.alternatives with
  | [] => last
  | es => .alternation (es.reverse ++ [last])

def alternate (p : Progress) : Progress :=
  { p with alternatives := Expr.ofParts p.before.reverse :: p.alternatives, before := [] }

def openGroup (p : Progress) (own : Option Flags) : Progress :=
  { p with
    frames := ⟨p.alternatives, p.before, own, p.extended⟩ :: p.frames
    alternatives := []
    before := []
    extended := (own.bind (·.state? 'x')).getD p.extended }

def closeGroup? (p : Progress) : Option Progress :=
  match p.frames with
  | [] => none
  | frame :: frames => some
    { p with
      frames
      alternatives := frame.alternatives
      before := .group frame.own p.content :: frame.before
      extended := frame.extended }

/-- Takes what an opening parenthesis starts; no two groups have one name. -/
def open? (p : Progress) : Opening → Option Progress
  | .capture none => some (p.openGroup none)
  | .capture (some name) =>
    if p.names.contains name then none
    else some { p.openGroup none with names := name :: p.names }
  | .plain own => some (p.openGroup (some own))
  | .setFlags f =>
    some { p.push (.flags f) with extended := (f.state? 'x').getD p.extended }

def repeat? (p : Progress) (least : Nat) (most : Option Nat) : Option Progress :=
  (repeatLast? p.before least most).map fun before => { p with before }

end Progress

def patternRest? : (fuel : Nat) → Progress → List Char → Option Expr
  | 0, _, _ => none
  | fuel + 1, p, text =>
    match afterGap p.extended text with
    | [] => if p.frames.isEmpty then some p.content else none
    | c :: rest =>
      let step : Option (Progress × List Char) :=
        match c with
        | '(' => do
          let (what, rest) ← opening? p.extended rest
          return (← p.open? what, rest)
        | ')' => p.closeGroup?.map (·, rest)
        | '|' => some (p.alternate, rest)
        | '[' => (bracket? p.extended rest).map fun (e, rest) => (p.push e, rest)
        | '?' => (p.repeat? 0 (some 1)).map (·, skipLazy rest)
        | '*' => (p.repeat? 0 none).map (·, skipLazy rest)
        | '+' => (p.repeat? 1 none).map (·, skipLazy rest)
        | '\x7b' => do
          let ((least, most), rest) ← bounds? p.extended rest
          return (← p.repeat? least most, rest)
        | c => (atom? p.extended c rest).map fun (a, rest) => (p.push (.atom a), rest)
      step.bind fun (p, rest) => patternRest? fuel p rest

/-- Parts may be nested this deep. -/
def depthLimit : Nat := 250

def parse? (text : List Char) : Option Expr := do
  let e ← patternRest? (text.length + 1) .start text
  if e.depth ≤ depthLimit then some e else none

end TraitSchema.Pattern
