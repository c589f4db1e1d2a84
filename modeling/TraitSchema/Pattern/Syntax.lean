namespace TraitSchema.Pattern

structure Literal where
  char : Char
  /-- It was written as an escape of exactly two hexadecimal digits. -/
  isByte : Bool
deriving DecidableEq, Repr

inductive ClassEscape where
  | digit
  | space
  | word
deriving DecidableEq, Repr

inductive PropertyName where
  | named (name : String)
  | valued (property value : String)
deriving DecidableEq, Repr

inductive Assertion where
  | lineStart
  | lineEnd
  | textStart
  | textEnd
  | wordBorder
  | noWordBorder
  | wordStart
  | wordEnd
  | wordStartHalf
  | wordEndHalf
deriving DecidableEq, Repr

inductive Atom where
  | literal (l : Literal)
  | dot
  | assertion (a : Assertion)
  | escape (e : ClassEscape) (negated : Bool)
  | property (p : PropertyName) (negated : Bool)
deriving DecidableEq, Repr

inductive SetOperation where
  | intersection
  | difference
  | symmetricDifference
deriving DecidableEq, Repr

inductive ClassSet where
  | empty
  | single (l : Literal)
  | range (first last : Literal)
  | ascii (name : String) (negated : Bool)
  | escape (e : ClassEscape) (negated : Bool)
  | property (p : PropertyName) (negated : Bool)
  | bracket (negated : Bool) (set : ClassSet)
  | union (sets : List ClassSet)
  | operation (op : SetOperation) (left right : ClassSet)
deriving Repr

structure Flags where
  on : List Char
  off : List Char
deriving DecidableEq, Repr

/-- What becomes of a flag. -/
def Flags.state? (flags : Flags) (flag : Char) : Option Bool :=
  if flags.on.contains flag then some true
  else if flags.off.contains flag then some false
  else none

inductive Expr where
  | empty
  | atom (a : Atom)
  /-- Turns flags on and off for the rest of the group. -/
  | flags (f : Flags)
  | bracket (negated : Bool) (set : ClassSet)
  /-- From `least` to `most` times; without `most` there is no bound. -/
  | repetition (e : Expr) (least : Nat) (most : Option Nat)
  | group (own : Option Flags) (e : Expr)
  | alternation (es : List Expr)
  | concat (es : List Expr)
deriving Repr

def Expr.ofParts : List Expr → Expr
  | [] => .empty
  | [e] => e
  | es => .concat es

def ClassSet.ofParts : List ClassSet → ClassSet
  | [] => .empty
  | [s] => s
  | sets => .union sets

mutual

/-- How deep brackets, unions and operations are nested in a set. -/
def ClassSet.depth : ClassSet → Nat
  | .bracket _ set => set.depth + 1
  | .union sets => depthOfSets sets + 1
  | .operation _ left right => max left.depth right.depth + 1
  | _ => 0

def depthOfSets : List ClassSet → Nat
  | [] => 0
  | set :: sets => max set.depth (depthOfSets sets)

end

mutual

def Expr.depth : Expr → Nat
  | .bracket _ set => set.depth + 1
  | .repetition e _ _ => e.depth + 1
  | .group _ e => e.depth + 1
  | .alternation es => depthOfParts es + 1
  | .concat es => depthOfParts es + 1
  | _ => 0

def depthOfParts : List Expr → Nat
  | [] => 0
  | e :: es => max e.depth (depthOfParts es)

end

end TraitSchema.Pattern
