import TraitSchema.Conformance.Checks
import TraitSchema.Generation

namespace TraitSchema.Conformance

open Generation (Run onFile)

def validateFile {m : Type → Type} [Monad m] [FileAccess m] (path : String) : Run m Report := do
  let text ← onFile (.unreadable path) (FileAccess.readText path)
  match Json.read? text with
  | some doc => return validate doc
  | none => throw (.unparsable path)

end TraitSchema.Conformance
