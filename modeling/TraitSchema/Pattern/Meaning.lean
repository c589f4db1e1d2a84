import TraitSchema.Pattern.Property
import TraitSchema.Pattern.Syntax

namespace TraitSchema.Pattern

def Literal.isSettable (unicode : Bool) (l : Literal) : Bool := unicode || l.char.toNat < 0x80

mutual

def ClassSet.isMeaningful (unicode : Bool) : ClassSet → Bool
  | .empty => true
  | .single l => l.isSettable unicode
  | .range first last => first.isSettable unicode && last.isSettable unicode
  | .ascii _ negated => unicode || !negated
  | .escape _ negated => unicode || !negated
  | .property p _ => unicode && p.isKnown
  | .bracket negated set => (unicode || !negated) && set.isMeaningful unicode
  | .union sets => areMeaningful unicode sets
  | .operation _ left right => left.isMeaningful unicode && right.isMeaningful unicode

def areMeaningful (unicode : Bool) : List ClassSet → Bool
  | [] => true
  | set :: sets => set.isMeaningful unicode && areMeaningful unicode sets

end

def Atom.isMeaningful (unicode : Bool) : Atom → Bool
  | .literal l => unicode || !l.isByte || l.char.toNat < 0x80
  | .dot => unicode
  | .assertion _ => true
  | .escape _ negated => unicode || !negated
  | .property p _ => unicode && p.isKnown

def Flags.unicodeAfter (f : Flags) (unicode : Bool) : Bool := (f.state? 'u').getD unicode

mutual

/-- The flag for Unicode after a pattern, if the pattern has a meaning where the flag is as given
before. Every class must be known; where the flag is off, no part may match a single byte of a
longer character. -/
def Expr.unicodeAfter? (unicode : Bool) : Expr → Option Bool
  | .empty => some unicode
  | .atom a => if a.isMeaningful unicode then some unicode else none
  | .flags f => some (f.unicodeAfter unicode)
  | .bracket negated set =>
    if (ClassSet.bracket negated set).isMeaningful unicode then some unicode else none
  | .repetition e _ _ => e.unicodeAfter? unicode
  | .group own e =>
    let inner := (own.map fun f => f.unicodeAfter unicode).getD unicode
    (e.unicodeAfter? inner).map fun _ => unicode
  | .alternation es => unicodeAfterAll? unicode es
  | .concat es => unicodeAfterAll? unicode es

def unicodeAfterAll? (unicode : Bool) : List Expr → Option Bool
  | [] => some unicode
  | e :: es => (e.unicodeAfter? unicode).bind fun unicode => unicodeAfterAll? unicode es

end

/-- The pattern has a meaning where the flag for Unicode is on at first. -/
def Expr.isMeaningful (e : Expr) : Bool := (e.unicodeAfter? true).isSome

end TraitSchema.Pattern
