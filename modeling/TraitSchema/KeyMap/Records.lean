import TraitSchema.Declaration
import TraitSchema.Text.Scan
import TraitSchema.Text.Space

namespace TraitSchema.KeyMap

def isKeyChar (c : Char) : Bool :=
  ('a' ≤ c && c ≤ 'z') || ('0' ≤ c && c ≤ '9') || c == '_'

def isNameChar (c : Char) : Bool := isKeyChar c || c == wildcard

def isTagChar (c : Char) : Bool := ('A' ≤ c && c ≤ 'Z') || c == '_'

def flag? : List Char → Option (Bool × List Char)
  | 't' :: 'r' :: 'u' :: 'e' :: rest => some (true, rest)
  | 'f' :: 'a' :: 'l' :: 's' :: 'e' :: rest => some (false, rest)
  | _ => none

def nextFlag? : List Char → Option (Bool × List Char)
  | ',' :: rest => flag? (rest.dropWhile Text.isSpace)
  | _ => none

/-- Exactly four flags in braces. -/
def flags? : List Char → Option (OperatorSet × List Char)
  | '\x7b' :: text => do
    let (set, text) ← flag? text
    let (add, text) ← nextFlag? text
    let (remove, text) ← nextFlag? text
    let (delete, text) ← nextFlag? text
    match text with
    | '\x7d' :: rest => some (⟨set, add, remove, delete⟩, rest)
    | _ => none
  | _ => none

def tag? (text : List Char) : Option (TypeTag × List Char) := do
  let rest ← Text.after? "TRAIT_TYPE_".toList text
  match rest.takeWhile isTagChar, rest.dropWhile isTagChar with
  | [], _ => none
  | tag, ',' :: rest => some (⟨String.ofList tag⟩, rest)
  | _, _ => none

def key? : List Char → Option (String × List Char)
  | '"' :: text => do
    let rest ← Text.after? ['"', ','] (text.dropWhile isKeyChar)
    return (String.ofList (text.takeWhile isKeyChar), rest)
  | _ => none

def name? (segment text : List Char) : Option (String × List Char) := do
  let text ← Text.after? ('"' :: segment ++ [':']) text
  let rest ← Text.after? ['"', ','] (text.dropWhile isNameChar)
  return (String.ofList (segment ++ ':' :: text.takeWhile isNameChar), rest)

/-- Where the tag is looked for after the comma of a key: on the next line if nothing but blanks
ends this one. -/
def afterKey (text : List Char) : List Char :=
  match text.dropWhile Text.isBlank with
  | '\n' :: next => next
  | _ => text

def tagged? (text : List Char) : Option ((TypeTag × OperatorSet) × List Char) := do
  let (tag, rest) ← tag? text
  let (operators, rest) ← Text.lastOnLine flags? rest
  return ((tag, operators), rest)

def keyed? (text : List Char) : Option ((String × TypeTag × OperatorSet) × List Char) := do
  let (key, rest) ← key? text
  let ((tag, operators), rest) ← Text.firstOnLine tagged? (afterKey rest)
  return ((key, tag, operators), rest)

/-- A record of the segment at the front of the text. It declares a trait as

    "base:owner", "owner",
    TRAIT_TYPE_STRING, (true, false, false, false)

with braces around the flags. The name and the key share a line; the tag and the opening brace
share the same line or the next. Where several readings are complete, the last key is taken, then
the first tag, then the last brace. -/
def record? (segment text : List Char) : Option (Declaration × List Char) := do
  let (name, rest) ← name? segment text
  let ((key, tag, operators), rest) ← Text.lastOnLine keyed? rest
  return ({ segment := String.ofList segment, name, key, tag, operators }, rest)

/-- The declarations of a segment, its name given in either case, in the order of the text. Segment
names of any length are looked for: an engine for regular expressions with a size limit refuses the
pattern for a name of several hundred thousand letters, which then has no declarations, and that
case is left out. -/
def records (segment : String) (text : List Char) : List Declaration :=
  Text.scan (fun _ => record? (Text.lower segment.toList)) text

end TraitSchema.KeyMap
