import TraitSchema.Pattern.Gap
import TraitSchema.Pattern.Syntax
import TraitSchema.Text.Search

namespace TraitSchema.Pattern

def isHexDigit (c : Char) : Bool :=
  c.isDigit || ('a' ≤ c && c ≤ 'f') || ('A' ≤ c && c ≤ 'F')

def hexValue (c : Char) : Nat :=
  if c.isDigit then c.toNat - '0'.toNat
  else if 'a' ≤ c then c.toNat - 'a'.toNat + 10
  else c.toNat - 'A'.toNat + 10

def charOfHex? (digits : List Char) : Option Char :=
  let code := digits.foldl (fun n d => 16 * n + hexValue d) 0
  if code < 0xD800 || (0xDFFF < code && code < 0x110000) then some (Char.ofNat code) else none

def hexDigits? (extended : Bool) : Nat → List Char → Option (List Char × List Char)
  | 0, text => some ([], afterGap extended text)
  | n + 1, text =>
    match afterGap extended text with
    | [] => none
    | c :: rest =>
      if isHexDigit c then
        (hexDigits? extended n rest).map fun (digits, rest) => (c :: digits, rest)
      else none

/-- A character given by its code: after the letter stand so many digits or any number of them in
braces. -/
def hexAtom? (extended : Bool) (count : Nat) (text : List Char) : Option (Atom × List Char) :=
  match afterGap extended text with
  | '\x7b' :: text =>
    match takeRun extended isHexDigit false text with
    | ([], _) => none
    | (digits, '\x7d' :: rest) =>
      (charOfHex? digits).map fun c => (.literal ⟨c, false⟩, afterGap extended rest)
    | _ => none
  | text => do
    let (digits, rest) ← hexDigits? extended count text
    let c ← charOfHex? digits
    return (.literal ⟨c, count == 2⟩, rest)

def splitAt? (mark text : List Char) : Option (List Char × List Char) :=
  let head := Text.before mark text
  (Text.after? mark (text.drop head.length)).map fun rest => (head, rest)

def propertyName (text : List Char) : PropertyName :=
  match splitAt? ['!', '='] text <|> splitAt? [':'] text <|> splitAt? ['='] text with
  | some (property, value) => .valued (String.ofList property) (String.ofList value)
  | none => .named (String.ofList text)

def propertyAtom? (extended negated : Bool) (text : List Char) : Option (Atom × List Char) :=
  match afterGap extended text with
  | [] => none
  | '\x7b' :: text =>
    match takeRun extended (· != '\x7d') false text with
    | (name, '\x7d' :: rest) => some (.property (propertyName name) negated, rest)
    | _ => none
  | '\\' :: _ => none
  | c :: rest =>
    some (.property (.named (String.ofList [c])) negated, afterGap extended rest)

def isBorderNameChar (c : Char) : Bool := c.isAlpha || c == '-'

def borderOf? (name : List Char) : Option Assertion :=
  match String.ofList name with
  | "start" => some .wordStart
  | "end" => some .wordEnd
  | "start-half" => some .wordStartHalf
  | "end-half" => some .wordEndHalf
  | _ => none

/-- The border of a word, after its letter: a special one if a name in braces follows. Braces that
hold no name are left for a repetition. -/
def borderAtom? (extended : Bool) (text : List Char) : Option (Atom × List Char) :=
  match text with
  | '\x7b' :: inner =>
    match afterGap extended inner with
    | [] => none
    | c :: _ =>
      if isBorderNameChar c then
        match takeRun extended isBorderNameChar false inner with
        | (name, '\x7d' :: rest) => (borderOf? name).map fun a => (.assertion a, rest)
        | _ => none
      else some (.assertion .wordBorder, text)
  | _ => some (.assertion .wordBorder, text)

/-- The characters that may be escaped to stand for themselves: those of ASCII that are neither
letters nor digits nor angle brackets. -/
def isEscapable (c : Char) : Bool :=
  c.toNat < 0x80 && !c.isAlphanum && c != '<' && c != '>'

def escape? (extended : Bool) : List Char → Option (Atom × List Char)
  | [] => none
  | c :: rest =>
    let one (a : Atom) : Option (Atom × List Char) := some (a, rest)
    let char (code : Char) := one (.literal ⟨code, false⟩)
    match c with
    | 'x' => hexAtom? extended 2 rest
    | 'u' => hexAtom? extended 4 rest
    | 'U' => hexAtom? extended 8 rest
    | 'p' => propertyAtom? extended false rest
    | 'P' => propertyAtom? extended true rest
    | 'd' => one (.escape .digit false)
    | 'D' => one (.escape .digit true)
    | 's' => one (.escape .space false)
    | 'S' => one (.escape .space true)
    | 'w' => one (.escape .word false)
    | 'W' => one (.escape .word true)
    | 'a' => char '\x07'
    | 'f' => char '\x0c'
    | 't' => char '\t'
    | 'n' => char '\n'
    | 'r' => char '\r'
    | 'v' => char '\x0b'
    | 'A' => one (.assertion .textStart)
    | 'z' => one (.assertion .textEnd)
    | 'b' => borderAtom? extended rest
    | 'B' => one (.assertion .noWordBorder)
    | '<' => one (.assertion .wordStart)
    | '>' => one (.assertion .wordEnd)
    | c => if isEscapable c then char c else none

/-- The part of a pattern outside of brackets that starts with this character and is neither a
group nor a repetition. -/
def atom? (extended : Bool) (c : Char) (rest : List Char) : Option (Atom × List Char) :=
  match c with
  | '\\' => escape? extended rest
  | '.' => some (.dot, rest)
  | '^' => some (.assertion .lineStart, rest)
  | '$' => some (.assertion .lineEnd, rest)
  | c => some (.literal ⟨c, false⟩, rest)

end TraitSchema.Pattern
