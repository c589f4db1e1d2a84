import TraitSchema.Aggregate
import TraitSchema.Conversion
import TraitSchema.Json.Union
import TraitSchema.RunError
import TraitSchema.Task

namespace TraitSchema

structure KeyMapSource where
  adminType : AdminType
  path : String
deriving DecidableEq, Repr

structure Converted where
  fragment : Fragment
  segmentCount : Nat
  file : Option String

structure GenerationReport where
  converted : List Converted
  aggregate : Aggregate
  files : List String

namespace Generation

variable {m : Type → Type} [Monad m] [FileAccess m] [Reporting m]

abbrev Run (m : Type → Type) := ExceptT RunError m

def during {α : Type} (context : SchemaError → RunError) (task : Task m α) : Run m α :=
  ExceptT.adapt context task

def onFile {α : Type} (context : FileError → RunError) (step : m (Except FileError α)) :
    Run m α :=
  ExceptT.mk (Except.mapError context <$> step)

def report (event : Event) : Run m Unit := ExceptT.lift (Reporting.report event)

/-- Reports the events of a trace and takes its outcome. -/
def follow {α : Type} (context : SchemaError → RunError) (trace : Traced α) : Run m α := do
  trace.events.forM report
  ExceptT.mk (pure (trace.outcome.mapError context))

def requireExtension (mode : Mode) (path expected : String) : Run m Unit :=
  if Path.extension? path = some expected then return ()
  else follow .schema (mode.violation (.unexpectedExtension path expected)
    (.unexpectedExtension path expected))

def source? (config : Config) (name : String) (isFile : Bool) : Run m (Option KeyMapSource) := do
  if !isFile then return none
  else if config.isIgnored name then
    report (.ignoredFile name)
    return none
  else
    match AdminType.ofFileName? name with
    | some adminType => return some ⟨adminType, Path.join config.keyMapDir name⟩
    | none =>
      report (.otherFile name)
      return none

/-- The key maps in the order of their file names. -/
def discover (config : Config) : Run m (List KeyMapSource) := do
  let entries ← onFile (.discovery config.keyMapDir) (FileAccess.list config.keyMapDir)
  entries.filterMapM fun (name, isFile) => source? config name isFile

/-- Converts a key map, and writes its fragment where there is a place for fragments. -/
def convert (config : Config) (source : KeyMapSource) : Run m Converted := do
  let adminType := source.adminType
  requireExtension config.mode source.path "hpp"
  report (.converting adminType source.path)
  let document ← during (.matrix adminType)
    (Task.loadMatrix adminType (Path.join config.supportDir adminType.supportFile))
  let text ← onFile (.unreadable source.path) (FileAccess.readText source.path)
  let conversion : Conversion := ⟨config.mode, adminType, document.matrix adminType⟩
  let (fragment, segmentCount) ← follow (.conversion source.path) (conversion.run text.toList)
  match config.fragmentsDir with
  | none => return ⟨fragment, segmentCount, none⟩
  | some directory =>
    let path := Path.join directory (adminType.name ++ ".json")
    during .schema (Task.writeJson path fragment.toJson)
    return ⟨fragment, segmentCount, some path⟩

/-- A base schema is an object whose definitions, if it has any, are one too. -/
def isBaseSchema (value : Json) : Bool :=
  value.isObject && (value.get? definitionsKey).all Json.isObject

def loadBase (config : Config) : Run m Json := do
  let base ← during .schema (Task.readJson config.baseSchema)
  if isBaseSchema base then return base else throw (.schema (.baseSchema config.baseSchema))

def generate (config : Config) : Run m GenerationReport := do
  requireExtension config.mode config.output "json"
  let sources ← discover config
  if sources.isEmpty then report (.noSources config.keyMapDir)
  let converted ← sources.mapM (convert config)
  let aggregate := Aggregate.ofFragments (converted.map (·.fragment))
  let base ← loadBase config
  during .schema (Task.writeJson config.output (Json.uniteSchemas base aggregate.document))
  report (.wroteSchema aggregate.definitions.length config.output)
  return ⟨converted, aggregate, converted.filterMap (·.file) ++ [config.output]⟩

end Generation

end TraitSchema
