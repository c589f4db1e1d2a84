import TraitSchema.Json.Basic

namespace TraitSchema.Json

/-- Takes something off the front of a text and gives what is left. -/
abbrev Reader (α : Type) := List Char → Option (α × List Char)

def isGap (c : Char) : Bool := c == ' ' || c == '\n' || c == '\t' || c == '\r'

def skipGap (text : List Char) : List Char := text.dropWhile isGap

def hexDigit? (c : Char) : Option Nat :=
  if '0' ≤ c ∧ c ≤ '9' then some (c.toNat - '0'.toNat)
  else if 'a' ≤ c ∧ c ≤ 'f' then some (c.toNat - 'a'.toNat + 10)
  else if 'A' ≤ c ∧ c ≤ 'F' then some (c.toNat - 'A'.toNat + 10)
  else none

def hexCode? (a b c d : Char) : Option Nat := do
  return (((← hexDigit? a) * 16 + (← hexDigit? b)) * 16 + (← hexDigit? c)) * 16 + (← hexDigit? d)

def escaped? (c : Char) : Option Char :=
  match c with
  | '"' => some '"'
  | '\\' => some '\\'
  | '/' => some '/'
  | 'b' => some '\x08'
  | 'f' => some '\x0c'
  | 'n' => some '\n'
  | 'r' => some '\r'
  | 't' => some '\t'
  | _ => none

def isHighSurrogate (code : Nat) : Bool := 0xD800 ≤ code && code ≤ 0xDBFF

def isLowSurrogate (code : Nat) : Bool := 0xDC00 ≤ code && code ≤ 0xDFFF

def stringBody : Reader (List Char)
  | [] => none
  | '"' :: rest => some ([], rest)
  | '\\' :: 'u' :: a :: b :: c :: d :: rest => do
    let code ← hexCode? a b c d
    if isHighSurrogate code then
      match rest with
      | '\\' :: 'u' :: e :: f :: g :: h :: rest => do
        let low ← hexCode? e f g h
        if isLowSurrogate low then
          let (cs, rest) ← stringBody rest
          some (Char.ofNat (0x10000 + (code - 0xD800) * 0x400 + (low - 0xDC00)) :: cs, rest)
        else none
      | _ => none
    else if isLowSurrogate code then none
    else
      let (cs, rest) ← stringBody rest
      some (Char.ofNat code :: cs, rest)
  | '\\' :: e :: rest => do
    let c ← escaped? e
    let (cs, rest) ← stringBody rest
    some (c :: cs, rest)
  | c :: rest => do
    if c.toNat < 0x20 || c = '\\' then none
    else
      let (cs, rest) ← stringBody rest
      some (c :: cs, rest)

def ofDigits (digits : List Char) : Nat :=
  digits.foldl (fun n d => 10 * n + (d.toNat - '0'.toNat)) 0

def digits? : Reader (List Char) := fun text =>
  match text.takeWhile Char.isDigit with
  | [] => none
  | digits => some (digits, text.dropWhile Char.isDigit)

/-- The digits of a whole number: no zero stands before another digit. -/
def wholePart? : Reader (List Char) := fun text => do
  let (digits, rest) ← digits? text
  if digits.head? = some '0' ∧ digits.length ≠ 1 then none else some (digits, rest)

def fraction? : Reader (Option (List Char))
  | '.' :: rest => (digits? rest).map fun (digits, rest) => (some digits, rest)
  | text => some (none, text)

def exponent? : Reader (Option Int)
  | [] => some (none, [])
  | c :: rest =>
    if c = 'e' ∨ c = 'E' then
      let (negative, rest) := match rest with
        | '-' :: rest => (true, rest)
        | '+' :: rest => (false, rest)
        | _ => (false, rest)
      (digits? rest).map fun (digits, rest) =>
        let n : Int := ofDigits digits
        (some (if negative then -n else n), rest)
    else some (none, c :: rest)

/-- Appends digits to a number for as long as it stays below two to the 64; counts those appended. -/
def absorb (n count : Nat) : List Char → Nat × Nat
  | [] => (n, count)
  | d :: digits =>
    let next := 10 * n + (d.toNat - '0'.toNat)
    if next < Nat.pow 2 64 then absorb next (count + 1) digits else (n, count)

/-- The number written with these parts. Without fraction and exponent it is a whole number if it
fits into 64 bits (a negative one with its sign, and zero only without one); every other number is
binary, made from the digits that fit into 64 bits. -/
def numberOf? (negative : Bool) (whole : List Char) (fraction : Option (List Char))
    (exponent : Option Int) : Option JsonNumber :=
  let n := ofDigits whole
  let plain := fraction.isNone && exponent.isNone
  if plain && !negative && n < Nat.pow 2 64 then some (.whole n)
  else if plain && negative && 0 < n && n ≤ Nat.pow 2 63 then some (.whole (-n))
  else
    let (head, kept) := absorb 0 0 whole
    let (all, places) := absorb head 0 (fraction.getD [])
    let shift : Int := (whole.length : Int) - kept - places + exponent.getD 0
    (Binary64.ofDecimal? negative all shift).map .binary

def number? : Reader JsonNumber := fun text => do
  let (negative, text) := match text with
    | '-' :: rest => (true, rest)
    | _ => (false, text)
  let (whole, rest) ← wholePart? text
  let (fraction, rest) ← fraction? rest
  let (exponent, rest) ← exponent? rest
  some (← numberOf? negative whole fraction exponent, rest)

def scalar? : Reader Json
  | 'n' :: 'u' :: 'l' :: 'l' :: rest => some (.null, rest)
  | 't' :: 'r' :: 'u' :: 'e' :: rest => some (.bool true, rest)
  | 'f' :: 'a' :: 'l' :: 's' :: 'e' :: rest => some (.bool false, rest)
  | '"' :: rest => (stringBody rest).map fun (cs, rest) => (.string (String.ofList cs), rest)
  | text => (number? text).map fun (n, rest) => (.number n, rest)

/-- At least one item, with commas between them, and the closing mark. -/
def items? {α : Type} (close : Char) (item : Reader α) : (fuel : Nat) → Reader (List α)
  | 0, _ => none
  | fuel + 1, text => do
    let (x, rest) ← item (skipGap text)
    match skipGap rest with
    | ',' :: rest =>
      let (xs, rest) ← items? close item fuel rest
      some (x :: xs, rest)
    | c :: rest => if c = close then some ([x], rest) else none
    | [] => none

def listing? {α : Type} (close : Char) (item : Reader α) (fuel : Nat) : Reader (List α) :=
  fun text =>
    match skipGap text with
    | [] => none
    | c :: rest => if c = close then some ([], rest) else items? close item fuel (c :: rest)

def member? (value : Reader Json) : Reader (String × Json)
  | '"' :: rest => do
    let (key, rest) ← stringBody rest
    match skipGap rest with
    | ':' :: rest =>
      let (v, rest) ← value (skipGap rest)
      some ((String.ofList key, v), rest)
    | _ => none
  | _ => none

/-- A value with containers nested at most `depth` deep. -/
def value? (fuel : Nat) : (depth : Nat) → Reader Json
  | 0, text => scalar? text
  | depth + 1, text =>
    match text with
    | '[' :: rest =>
      (listing? ']' (value? fuel depth) fuel rest).map fun (items, rest) => (.array items, rest)
    | '\x7b' :: rest =>
      (listing? '\x7d' (member? (value? fuel depth)) fuel rest).map fun (members, rest) =>
        (ofMembers members, rest)
    | _ => scalar? text

/-- The value that the whole text stands for, its containers nested at most `depth` deep and nothing
but gaps after it. A key that is given twice keeps its last value. -/
def readNested? (depth : Nat) (text : List Char) : Option Json := do
  let (value, rest) ← value? text.length depth (skipGap text)
  if skipGap rest = [] then some value else none

def nestingLimit : Nat := 127

def read? (text : String) : Option Json := readNested? nestingLimit text.toList

end TraitSchema.Json
