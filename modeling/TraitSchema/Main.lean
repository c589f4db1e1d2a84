import TraitSchema.Programs

namespace TraitSchema

/-- Steps with access to the real files; the flag says whether to show every event. -/
abbrev Console := ReaderT Bool IO

namespace Console

def reason : IO.Error → FileError
  | .noFileOrDirectory .. => .notFound
  | .alreadyExists .. => .alreadyExists
  | .inappropriateType _ code _ => if code = 21 then .isDirectory else .notDirectory
  | e => .other (toString e)

def attempt {α : Type} (step : IO α) : Console (Except FileError α) := do
  match ← step.toBaseIO with
  | .ok x => return .ok x
  | .error e => return .error (reason e)

def listNames (path : String) : IO (Table Bool) := do
  let directory ← IO.FS.realPath path
  if (← directory.metadata).type == .file then return []
  let entries ← directory.readDir
  let named ← entries.toList.mapM fun entry => do
    return (entry.fileName, (← entry.path.metadata).type == .file)
  return Table.ofList named

instance : FileAccess Console where
  readText path := do
    match ← attempt (IO.FS.readBinFile path) with
    | .error e => return .error e
    | .ok bytes =>
      match String.fromUTF8? bytes with
      | some text => return .ok text
      | none => return .error .notText
  writeText path text := attempt (IO.FS.writeFile path text)
  makeDirectories path := attempt (IO.FS.createDirAll path)
  list path := attempt (listNames path)

instance : Reporting Console where
  report event := do
    if (← read) || event.level != .debug then IO.eprintln event.line

def usage (name : String) (spec : CommandSpec) : String :=
  textOfLines (("Usage: " ++ name ++ " [OPTIONS]") ::
    spec.options.map (fun option => "  --" ++ option ++ " <VALUE>") ++
    spec.flags.map fun flag => "  --" ++ flag.1)

def start (name : String) (spec : CommandSpec) (run : List String → Console Exit)
    (words : List String) : IO UInt32 := do
  let verbose := match Command.parse spec words with
    | .run args => args.has "verbose"
    | _ => false
  let exit ← (run words).run verbose
  match exit with
  | .help => IO.print (usage name spec)
  | .usage => IO.eprint (usage name spec)
  | .finished _ output errors =>
    IO.print output
    IO.eprint errors
  return exit.code.toUInt32

end Console

end TraitSchema

open TraitSchema in
/-- The program that generates the schema, unless the name under which this one was started is that
of the other one. -/
def main (words : List String) : IO UInt32 := do
  let conformance := "keymap-conformance"
  if (← IO.appPath).fileStem == some conformance then
    Console.start conformance ConformanceProgram.spec ConformanceProgram.run words
  else
    Console.start "keymap-schema" SchemaProgram.spec SchemaProgram.run words
