import TraitSchema.Json.Reader
import TraitSchema.Text.Space

namespace TraitSchema.Config

open Json (Reader hexDigit?)

/-- The character may stand in a string or a comment: no control character but the tab. -/
def isPlain (c : Char) : Bool := c == '\t' || (0x20 ≤ c.toNat && c.toNat != 0x7f)

def charOfHex? (digits : List Char) : Option Char := do
  let code ← digits.foldlM (fun n d => (hexDigit? d).map (16 * n + ·)) 0
  if code < 0xD800 || (0xDFFF < code && code < 0x110000) then some (Char.ofNat code) else none

def escaped? (c : Char) : Option Char :=
  match c with
  | 'b' => some '\x08'
  | 't' => some '\t'
  | 'n' => some '\n'
  | 'f' => some '\x0c'
  | 'r' => some '\r'
  | '"' => some '"'
  | '\\' => some '\\'
  | _ => none

def consTo (c : Char) (read : Option (List Char × List Char)) : Option (List Char × List Char) :=
  read.map fun (cs, rest) => (c :: cs, rest)

def basicBody : Reader (List Char)
  | [] => none
  | '"' :: rest => some ([], rest)
  | '\\' :: 'u' :: a :: b :: c :: d :: rest => do
    consTo (← charOfHex? [a, b, c, d]) (basicBody rest)
  | '\\' :: 'U' :: a :: b :: c :: d :: e :: f :: g :: h :: rest => do
    consTo (← charOfHex? [a, b, c, d, e, f, g, h]) (basicBody rest)
  | '\\' :: e :: rest => do consTo (← escaped? e) (basicBody rest)
  | c :: rest => if isPlain c && c != '\\' then consTo c (basicBody rest) else none

def literalBody : Reader (List Char)
  | [] => none
  | '\'' :: rest => some ([], rest)
  | c :: rest => if isPlain c then consTo c (literalBody rest) else none

def endsLine (text : List Char) : Bool :=
  match text.dropWhile Text.isBlank with
  | '\n' :: _ => true
  | '\r' :: '\n' :: _ => true
  | _ => false

/-- A string up to its three closing double quotes, with at most two more right before them. A
backslash at the end of a line drops the line end and all blanks and line ends after it, which
`dropping` says is being done. -/
def longBasicBody (dropping : Bool) : Reader (List Char)
  | [] => none
  | '"' :: '"' :: '"' :: '"' :: '"' :: rest => some (['"', '"'], rest)
  | '"' :: '"' :: '"' :: '"' :: rest => some (['"'], rest)
  | '"' :: '"' :: '"' :: rest => some ([], rest)
  | '\\' :: 'u' :: a :: b :: c :: d :: rest => do
    consTo (← charOfHex? [a, b, c, d]) (longBasicBody false rest)
  | '\\' :: 'U' :: a :: b :: c :: d :: e :: f :: g :: h :: rest => do
    consTo (← charOfHex? [a, b, c, d, e, f, g, h]) (longBasicBody false rest)
  | '\\' :: e :: rest =>
    if endsLine (e :: rest) then
      if e = '\r' then
        match rest with
        | '\n' :: rest => longBasicBody true rest
        | _ => none
      else longBasicBody true rest
    else do consTo (← escaped? e) (longBasicBody false rest)
  | '\r' :: '\n' :: rest =>
    if dropping then longBasicBody true rest else consTo '\n' (longBasicBody false rest)
  | c :: rest =>
    if dropping && (Text.isBlank c || c == '\n') then longBasicBody true rest
    else if (isPlain c && c != '\\') || c == '\n' then consTo c (longBasicBody false rest)
    else none

/-- A string up to its three closing single quotes, with at most two more right before them. -/
def longLiteralBody : Reader (List Char)
  | [] => none
  | '\'' :: '\'' :: '\'' :: '\'' :: '\'' :: rest => some (['\'', '\''], rest)
  | '\'' :: '\'' :: '\'' :: '\'' :: rest => some (['\''], rest)
  | '\'' :: '\'' :: '\'' :: rest => some ([], rest)
  | '\r' :: '\n' :: rest => consTo '\n' (longLiteralBody rest)
  | c :: rest => if isPlain c || c == '\n' then consTo c (longLiteralBody rest) else none

def skipLineEnd : List Char → List Char
  | '\n' :: rest => rest
  | '\r' :: '\n' :: rest => rest
  | text => text

def shortString? : Reader String
  | '"' :: rest => (basicBody rest).map fun (cs, rest) => (String.ofList cs, rest)
  | '\'' :: rest => (literalBody rest).map fun (cs, rest) => (String.ofList cs, rest)
  | _ => none

def string? : Reader String
  | '"' :: '"' :: '"' :: rest =>
    (longBasicBody false (skipLineEnd rest)).map fun (cs, rest) => (String.ofList cs, rest)
  | '\'' :: '\'' :: '\'' :: rest =>
    (longLiteralBody (skipLineEnd rest)).map fun (cs, rest) => (String.ofList cs, rest)
  | text => shortString? text

end TraitSchema.Config
