import TraitSchema.Pattern.Meaning
import TraitSchema.Pattern.Parser
import TraitSchema.Pattern.Size

namespace TraitSchema.Pattern

inductive Fault where
  | malformed
  | tooLarge (limit : Nat)
deriving DecidableEq, Repr

/-- The bytes that the automaton for a pattern may take. -/
def sizeLimit : Nat := 10485760

def fault? (text : String) : Option Fault :=
  match parse? text.toList with
  | none => some .malformed
  | some e =>
    if !e.isMeaningful then some .malformed
    else if sizeLimit < e.size then some (.tooLarge sizeLimit)
    else none

end TraitSchema.Pattern
