namespace TraitSchema.Conformance

inductive Severity where
  | pass
  | warning
  | failure
deriving DecidableEq, Repr

def Severity.tag : Severity → String
  | .pass => "PASS"
  | .warning => "WARN"
  | .failure => "FAIL"

structure CheckResult where
  check : String
  severity : Severity
  message : String
  details : List String
deriving DecidableEq, Repr

namespace CheckResult

def pass (check message : String) : CheckResult := ⟨check, .pass, message, []⟩

/-- A check that passed with a reservation. -/
def warn (check message : String) (details : List String) : CheckResult :=
  ⟨check, .warning, message, details⟩

def fail (check message : String) (details : List String) : CheckResult :=
  ⟨check, .failure, message, details⟩

/-- Passes if nothing offends, and otherwise fails and lists what does. -/
def expectNone (check passMessage failMessage : String) (offenders : List String) : CheckResult :=
  if offenders.isEmpty then pass check passMessage else fail check failMessage offenders

def isFailure (result : CheckResult) : Bool := result.severity == .failure

end CheckResult

structure Report where
  results : List CheckResult
deriving DecidableEq, Repr, Inhabited

namespace Report

def empty : Report := ⟨[]⟩

def push (report : Report) (result : CheckResult) : Report := ⟨report.results ++ [result]⟩

def append (report other : Report) : Report := ⟨report.results ++ other.results⟩

def count (report : Report) (severity : Severity) : Nat :=
  report.results.countP (·.severity == severity)

def allPassed (report : Report) : Bool := report.count .failure == 0

end Report

end TraitSchema.Conformance
