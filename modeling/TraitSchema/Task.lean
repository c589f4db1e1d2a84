import TraitSchema.Config.Reader
import TraitSchema.Files.System
import TraitSchema.Json.Printer

namespace TraitSchema

abbrev Task (m : Type → Type) := ExceptT SchemaError m

namespace Task

variable {m : Type → Type} [Monad m] [FileAccess m]

/-- Takes a step that may fail for a reason of the file with this path. -/
def onFile {α : Type} (path : String) (step : m (Except FileError α)) : Task m α :=
  ExceptT.mk (Except.mapError (.file path) <$> step)

def orFail {α : Type} (e : SchemaError) : Option α → Task m α
  | some x => return x
  | none => throw e

def readJson (path : String) : Task m Json := do
  let text ← onFile path (FileAccess.readText path)
  orFail (.json path) (Json.read? text)

/-- Writes a value to a file and makes the directories for it. -/
def writeJson (path : String) (value : Json) : Task m Unit := do
  let directory := Path.parent path
  if directory ≠ "" then onFile path (FileAccess.makeDirectories directory)
  onFile path (FileAccess.writeText path value.fileText)

def loadMatrix (adminType : AdminType) (path : String) : Task m MatrixDocument := do
  let value ← readJson path
  let document := MatrixDocument.ofJson value
  ExceptT.mk (pure (document.mapError fun fault => .matrix ⟨adminType, fault⟩))

def loadConfig (path : String) : Task m Config := do
  let text ← onFile path (FileAccess.readText path)
  orFail (.config path) (Config.read? text)

end Task

end TraitSchema
