import TraitSchema.Pattern.Syntax

/-!
The size of the automaton for a pattern, in bytes. A state takes a fixed number of bytes and lists
inside states are counted on top; sets beyond ASCII are counted by a flat rate for each range.

The rates are flat, and so the size is an estimate of what a library for regular expressions takes
for the compiled pattern: near the limit the two may fall on different sides of it.
-/

namespace TraitSchema.Pattern

def stateSize : Nat := 32

def rangeSize : Nat := 8

def branchSize : Nat := 4

def wideRangeSize : Nat := 64

def namedRanges : Nat := 300

def ClassEscape.ranges : ClassEscape → Nat
  | .digit => 70
  | .space => 10
  | .word => 770

def rangesSize (wide : Bool) (ranges : Nat) : Nat :=
  2 * stateSize + ranges * (if wide then wideRangeSize else rangeSize)

mutual

/-- The ranges of a set, and whether some lie beyond ASCII. -/
def ClassSet.ranges : ClassSet → Bool × Nat
  | .empty => (false, 0)
  | .single l => (0x7f < l.char.toNat, 1)
  | .range _ last => (0x7f < last.char.toNat, 1)
  | .ascii _ negated => (negated, 4)
  | .escape e _ => (true, e.ranges)
  | .property _ _ => (true, namedRanges)
  | .bracket negated set =>
    let (wide, n) := set.ranges
    (wide || negated, if negated then n + 1 else n)
  | .union sets => rangesOfSets sets
  | .operation _ left right =>
    let (wide, n) := left.ranges
    let (wide', n') := right.ranges
    (wide || wide', n + n')

def rangesOfSets : List ClassSet → Bool × Nat
  | [] => (false, 0)
  | set :: sets =>
    let (wide, n) := set.ranges
    let (wide', n') := rangesOfSets sets
    (wide || wide', n + n')

end

def Atom.size : Atom → Nat
  | .literal l => l.char.utf8Size * stateSize
  | .dot => rangesSize true 8
  | .assertion _ => stateSize
  | .escape e _ => rangesSize true e.ranges
  | .property _ _ => rangesSize true namedRanges

/-- The bytes for a repetition of a part that has the given size. Without a bound the last copy
loops; with one, each copy beyond the least number can be passed by. -/
def repetitionSize (part least : Nat) : (most : Option Nat) → Nat
  | none => max least 1 * part + stateSize + 2 * branchSize
  | some most =>
    max (least * part) stateSize + (most - least) * (part + stateSize + 2 * branchSize)

mutual

def Expr.isWidthless : Expr → Bool
  | .empty => true
  | .flags _ => true
  | .atom (.assertion _) => true
  | .atom _ => false
  | .bracket _ _ => false
  | .repetition e _ most => e.isWidthless || most == some 0
  | .group _ e => e.isWidthless
  | .alternation es => areWidthless es
  | .concat es => areWidthless es

def areWidthless : List Expr → Bool
  | [] => true
  | e :: es => e.isWidthless && areWidthless es

end

mutual

/-- The bytes for a pattern. One that takes no characters is never repeated more than once. -/
def Expr.size : Expr → Nat
  | .empty => stateSize
  | .atom a => a.size
  | .flags _ => stateSize
  | .bracket negated set =>
    let (wide, n) := set.ranges
    rangesSize (wide || negated) (n + 1)
  | .repetition e least most =>
    if e.isWidthless then repetitionSize e.size (min least 1) (most.map (min 1))
    else repetitionSize e.size least most
  | .group none e => e.size + 2 * stateSize
  | .group (some _) e => e.size
  | .alternation es => sizeOfParts es + 2 * stateSize + es.length * branchSize
  | .concat es => sizeOfParts es

def sizeOfParts : List Expr → Nat
  | [] => 0
  | e :: es => e.size + sizeOfParts es

end

end TraitSchema.Pattern
