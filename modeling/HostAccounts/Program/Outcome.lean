import HostAccounts.Program.Log
import HostAccounts.Program.Run

/-!
# The outcome of a run

What a run leaves behind for whoever started it: an exit code, and what is reported of a failure.
-/

set_option autoImplicit false

namespace HostAccounts.Program

open CommandLine (Invocation UsageError)

/-- What a run leaves behind. -/
structure Outcome where
  exitCode : UInt32
  /-- What is left to be printed. -/
  output : String := ""
  /-- What is left to be reported beside the output. -/
  report : String := ""
  deriving DecidableEq, Repr

/-- The name and the version of the program. -/
def versionLine : String := "unixprov 0.1.0\n"

/-- The outcome of arguments that are not accepted or ask for a notice. -/
def Outcome.ofUsageError : UsageError → Outcome
  | .helpWanted => { exitCode := 0 }
  | .versionWanted => { exitCode := 0, output := versionLine }
  | _ => { exitCode := 2 }

/-- The outcome of a run that came to its end or failed. -/
def Outcome.ofResult : Except Failure Unit → Outcome
  | .ok () => { exitCode := 0 }
  | .error failure => { exitCode := 1, report := failure.report }

/-- The notices that come before everything else, about the directives in the environment. -/
def complain (directives : Option String) : Dialogue Unit :=
  match directives with
  | some text => (LogFilter.complaints text).forM fun line =>
    Dialogue.request (.notice (line ++ "\n"))
  | none => pure ()

/-- The variable of the environment with directives for the log. -/
def logVariable : String := "RUST_LOG"

/-- A run from the arguments to the outcome, with the filter of its log. -/
def runArguments (args : List String) : Dialogue Outcome :=
  match Invocation.ofArguments args with
  | .error e => pure (.ofUsageError e)
  | .ok i => do
    complain (← Dialogue.request (.environment logVariable))
    return .ofResult (← ExceptT.run (runInvocation i))

/-- The filter for the log of a run. -/
def logFilter (args : List String) (directives : Option String) : LogFilter :=
  match Invocation.ofArguments args with
  | .error _ => .choose 0 directives
  | .ok i => .choose i.options.verbosity directives

end HostAccounts.Program
