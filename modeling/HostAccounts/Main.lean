import HostAccounts.Program.Outcome
import Std.Time.Zoned

/-!
# The program

Answers the requests of a run from the process it runs in: files, the environment, the clock and a
terminal. There is no transport to another machine here, so opening a session fails.
-/

set_option autoImplicit false

namespace HostAccounts.Console

/-- Why no session can be opened. -/
def noTransport : TransportFault :=
  .failure "no transport is available"

theorem isDate_firstDay : IsDate 1970 1 1 := by decide

/-- The day of a clock that shows no valid date. -/
def firstDay : Date := ⟨1970, 1, 1, isDate_firstDay⟩

/-- The day it is. -/
def today : IO Date := do
  let d ← Std.Time.PlainDate.now
  return (Date.ofParts? d.year.toInt d.month.toNat d.day.toNat).getD firstDay

/-- Reads a file; nothing if that cannot be done. -/
def readFile (path : String) : IO (Option String) :=
  try
    return some (← IO.FS.readFile path)
  catch _ => return none

/-- The file exists. -/
def hasFile (path : String) : IO Bool :=
  try
    discard (IO.FS.realPath path)
    return true
  catch _ => return false

/-- A line without its end. -/
def withoutEnd (line : String) : String :=
  let text := (Text.dropLast? '\n' line).getD line
  (Text.dropLast? '\r' text).getD text

/-- Has a line typed at the terminal; nothing if there is none. -/
def typeLine (prompt : Option String) : IO (Option String) :=
  try
    let terminal ← IO.FS.Handle.mk "/dev/tty" .readWrite
    terminal.putStr (prompt.getD "")
    terminal.flush
    return some (withoutEnd (← terminal.getLine))
  catch _ => return none

/-- Answers a request, with a filter for the log. -/
def answer (log : LogFilter) : (r : Request) → IO r.Answer
  | .send .. => return .error noTransport
  | .connect .. => return .error noTransport
  | .login .. => return .error noTransport
  | .disconnect => return .ok ()
  | .logout _ => return .ok ()
  | .deliver _ => return true
  | .today => today
  | .tell e => do if log.admits e then IO.eprintln e.logLine
  | .password prompt => typeLine prompt
  | .print text => IO.print text
  | .notice text => IO.eprint text
  | .environment name => IO.getEnv name
  | .hasFile path => hasFile path
  | .readFile path => readFile path

/-- Runs a dialogue with the process as its peer. -/
def run {α : Type} (log : LogFilter) : Dialogue α → IO α
  | .done result => return result
  | .ask request next => do run log (next (← answer log request))

end HostAccounts.Console

/-- Runs the program with its arguments. -/
def main (args : List String) : IO UInt32 := do
  let directives ← IO.getEnv HostAccounts.Program.logVariable
  let log := HostAccounts.Program.logFilter args directives
  let outcome ← HostAccounts.Console.run log (HostAccounts.Program.runArguments args)
  IO.print outcome.output
  IO.eprint outcome.report
  return outcome.exitCode
