import TraitSchema.CommandLine
import TraitSchema.Conformance.Run

namespace TraitSchema

inductive Exit where
  | help
  | usage
  /-- It has run, with this exit code and this text on its two outputs. -/
  | finished (code : Nat) (output errors : String)
deriving DecidableEq, Repr

def Exit.code : Exit → Nat
  | .help => 0
  | .usage => 2
  | .finished code _ _ => code

def textOfLines (lines : List String) : String := String.join (lines.map (· ++ "\n"))

def Exit.failed (e : RunError) : Exit := .finished 1 "" (textOfLines ["Error: " ++ e.message])

variable {m : Type → Type} [Monad m] [FileAccess m] [Reporting m]

def runProgram (spec : CommandSpec) (body : Arguments → Generation.Run m Exit)
    (words : List String) : m Exit :=
  match Command.parse spec words with
  | .help => return .help
  | .wrong => return .usage
  | .run args => do
    match ← (body args).run with
    | .ok exit => return exit
    | .error e => return .failed e

namespace SchemaProgram

def spec : CommandSpec where
  options := ["config", "key-map-dir", "legacy-dir", "base-schema", "output", "fragments-dir"]
  flags := [("lenient", none), ("operator-codes", none), ("verbose", some 'v')]

/-- The settings of a run: those of the configuration, if one is named, with those given on the
command line in their place. -/
def config (args : Arguments) : Generation.Run m Config := do
  let config ← match args.value? "config" with
    | none => pure {}
    | some path => Generation.during (.configuration path) (Task.loadConfig path)
  return {
    keyMapDir := (args.value? "key-map-dir").getD config.keyMapDir
    supportDir := (args.value? "legacy-dir").getD config.supportDir
    baseSchema := (args.value? "base-schema").getD config.baseSchema
    output := (args.value? "output").getD config.output
    fragmentsDir := args.value? "fragments-dir" <|> config.fragmentsDir
    ignored := config.ignored
    mode := if args.has "lenient" then .lenient else config.mode }

def summary (c : Converted) : String :=
  "  " ++ c.fragment.adminType.name ++ ": " ++ toString c.segmentCount ++ " segments, " ++
    toString c.fragment.traitCount ++ " traits"

def output (report : GenerationReport) (withCodes : Bool) : String :=
  let codes := report.aggregate.codes.names
  textOfLines (["Key-map schema generation"] ++ report.converted.map summary ++
    ["  Definitions: " ++ toString report.aggregate.definitions.length] ++
    report.files.map ("  Written: " ++ ·) ++
    (if withCodes then "Operator codes:" :: codes.map ("  " ++ ·) else []) ++
    ["Schema generation complete."])

def run (words : List String) : m Exit :=
  runProgram spec (fun args => do
    let report ← Generation.generate (← config args)
    return .finished 0 (output report (args.has "operator-codes")) "") words

end SchemaProgram

namespace ConformanceProgram

open Conformance

def spec : CommandSpec where
  options := ["schema"]
  flags := [("verbose", some 'v')]

def resultLines (r : CheckResult) : List String :=
  ("[" ++ r.severity.tag ++ "] " ++ r.check ++ " — " ++ r.message) ::
    r.details.map ("       " ++ ·)

def exit (report : Report) : Exit :=
  let failed := report.count .failure
  let head := ["Key-map Schema Conformance Report", "=================================", ""] ++
    report.results.flatMap resultLines ++
    ["", "Summary: " ++ toString (report.count .pass) ++ " passed, " ++
      toString (report.count .warning) ++ " warnings, " ++ toString failed ++ " failed"]
  if 0 < failed then
    .finished 1 (textOfLines head)
      (textOfLines ["Conformance FAILED: " ++ toString failed ++ " check(s) did not pass."])
  else .finished 0 (textOfLines (head ++ ["Conformance PASSED."])) ""

/-- The program that checks the master schema. -/
def run (words : List String) : m Exit :=
  runProgram spec (fun args => do
    let path := (args.value? "schema").getD ({} : Config).output
    return exit (← validateFile path)) words

end ConformanceProgram

end TraitSchema
