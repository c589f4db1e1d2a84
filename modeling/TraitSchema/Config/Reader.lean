import TraitSchema.Config.Basic
import TraitSchema.Config.Quoted

namespace TraitSchema.Config

open Json (Reader)

def afterComment? : List Char → Option (List Char)
  | [] => some []
  | '\n' :: rest => some rest
  | '\r' :: '\n' :: rest => some rest
  | c :: rest => if isPlain c then afterComment? rest else none

/-- The text after the line end, where only blanks and a comment stand before it. -/
def afterLine? (text : List Char) : Option (List Char) :=
  match text.dropWhile Text.isBlank with
  | [] => some []
  | '\n' :: rest => some rest
  | '\r' :: '\n' :: rest => some rest
  | '#' :: rest => afterComment? rest
  | _ => none

def afterLines? : (fuel : Nat) → List Char → Option (List Char)
  | 0, _ => none
  | fuel + 1, text =>
    match text.dropWhile Text.isBlank with
    | '\n' :: rest => afterLines? fuel rest
    | '\r' :: '\n' :: rest => afterLines? fuel rest
    | '#' :: rest => (afterComment? rest).bind (afterLines? fuel)
    | rest => some rest

def isKeyChar (c : Char) : Bool := c.isAlphanum || c == '_' || c == '-'

def key? : Reader String := fun text =>
  match text.takeWhile isKeyChar with
  | [] => shortString? text
  | key => some (String.ofList key, text.dropWhile isKeyChar)

/-- The strings of an array up to its closing bracket. A comma may follow the last one. -/
def strings? : (fuel : Nat) → Reader (List String)
  | 0, _ => none
  | fuel + 1, text => do
    match ← afterLines? fuel text with
    | ']' :: rest => some ([], rest)
    | rest =>
      let (s, rest) ← string? rest
      match ← afterLines? fuel rest with
      | ']' :: rest => some ([s], rest)
      | ',' :: rest =>
        let (ss, rest) ← strings? fuel rest
        some (s :: ss, rest)
      | _ => none

def setting? (fuel : Nat) : Reader Setting
  | 't' :: 'r' :: 'u' :: 'e' :: rest => some (.flag true, rest)
  | 'f' :: 'a' :: 'l' :: 's' :: 'e' :: rest => some (.flag false, rest)
  | '[' :: rest => (strings? fuel rest).map fun (ss, rest) => (.texts ss, rest)
  | text => (string? text).map fun (s, rest) => (.text s, rest)

def settings? : (fuel : Nat) → List Char → Option (List (String × Setting))
  | 0, _ => none
  | fuel + 1, text => do
    match ← afterLines? (text.length + 1) text with
    | [] => some []
    | text =>
      let (key, rest) ← key? text
      match rest.dropWhile Text.isBlank with
      | '=' :: rest =>
        let (value, rest) ← setting? (rest.length + 1) (rest.dropWhile Text.isBlank)
        let rest ← afterLine? rest
        let settings ← settings? fuel rest
        some ((key, value) :: settings)
      | _ => none

def skipMark : List Char → List Char
  | '\ufeff' :: rest => rest
  | text => text

/-- The configuration that a text stands for: one setting a line, every key known and given once.
What the text does not give has its usual value. -/
def read? (text : String) : Option Config := do
  let text := skipMark text.toList
  let settings ← settings? (text.length + 1) text
  if (settings.map (·.1)).Nodup then
    settings.foldlM (fun (config : Config) (key, value) => config.set? key value) {}
  else none

end TraitSchema.Config
