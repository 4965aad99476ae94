import HostAccounts.Database.Dump
import HostAccounts.Diagnostics.Catalogue
import HostAccounts.ObjectClass
import HostAccounts.Script
import HostAccounts.Text.Literal
import HostAccounts.Transport.Fault

/-!
# Events

What is worth telling about a run, each kind with its level and its words. A command is told in its
redacted form only.
-/

set_option autoImplicit false

namespace HostAccounts

open Diagnostics (Operation)

/-- How much an event matters. -/
inductive Level where
  | error
  | warn
  | info
  | debug
  | trace
  deriving DecidableEq, Repr

namespace Level

/-- The name of the level. -/
def name : Level → String
  | error => "ERROR"
  | warn => "WARN"
  | info => "INFO"
  | debug => "DEBUG"
  | trace => "TRACE"

/-- The number of levels from the gravest to this one. -/
def rank : Level → Nat
  | error => 1
  | warn => 2
  | info => 3
  | debug => 4
  | trace => 5

end Level

/-- Something worth telling. -/
inductive Event where
  -- commands
  | executing (operation : Operation) (redacted : String)
  | transportFailed (operation : Operation) (fault : TransportFault)
  | printed (operation : Operation) (output : String)
  | targetMissing (failure : String) (operation : Operation) (target signature : String)
  | failureSeen (failure signature output : String)
  | confirmationMissing (failure marker : String)
  -- databases
  | rowSkipped (fault : RowFault)
  | accountsMatched (count : Nat)
  | groupsMatched (count : Nat)
  -- operations
  | creating (what name : String)
  | updating (what name : String)
  | nothingToModify (what name : String)
  | deleting (c : ObjectClass) (name : String)
  | nothingToDelete (c : ObjectClass) (name : String)
  | sessionTested
  | loginRejected (user reason : String)
  | logoutFailed (user : String) (fault : TransportFault)
  | authenticated (user : String)
  -- the session
  | opening (host : String) (port : UInt16) (user : String)
  | connected (host : String) (port : UInt16) (user : String)
  | replacing (operation : Operation)
  | closingFailed (words : String)
  -- settings
  | settingsGiven (path : String)
  | settingsInWorkingDirectory
  | settingsOfUser (path : String)
  | sudoPasswordFromEnvironment
  | adminPasswordFromEnvironment
  deriving DecidableEq, Repr

namespace Event

/-- How much the event matters. -/
def level : Event → Level
  | transportFailed .. | failureSeen .. | confirmationMissing .. => .error
  | targetMissing .. | rowSkipped _ | nothingToDelete .. | loginRejected .. => .warn
  | creating .. | updating .. | deleting .. | sessionTested | authenticated _ => .info
  | connected .. => .info
  | printed .. => .trace
  | _ => .debug

/-- The event in words. -/
def message : Event → String
  | executing operation redacted => s!"Executing {operation.name} command: {redacted}"
  | transportFailed operation fault =>
    s!"Transport failure during {operation.name}: {fault.message}"
  | printed operation output => s!"Output of {operation.name}: {Text.trimEnd output}"
  | targetMissing failure operation target signature =>
    s!"{failure} {operation.name}: target '{target}' not found (matched '{signature}')"
  | failureSeen failure signature output => s!"{failure} (matched '{signature}'): {output}"
  | confirmationMissing failure marker => s!"{failure} (confirmation '{marker}' missing)"
  | rowSkipped fault => s!"Skipping unparseable row: {fault.message}"
  | accountsMatched count => s!"Account search matched {count} rows"
  | groupsMatched count => s!"Group search matched {count} rows"
  | creating what name => s!"Creating {what} {name}"
  | updating what name => s!"Updating {what} {name}"
  | nothingToModify what name => s!"Nothing to modify on {what} {name}"
  | deleting c name => s!"Deleting {c.name} {name}"
  | nothingToDelete c name => s!"Cannot delete {c.name} {name}: not found"
  | sessionTested => "Connection test succeeded"
  | loginRejected user reason => s!"Authentication as {user} rejected: {reason}"
  | logoutFailed user fault => s!"Closing the session of {user} failed: {fault.message}"
  | authenticated user => s!"Authenticated {user}"
  | opening host port user => s!"Opening SSH session to {host}:{port} as {user}"
  | connected host port user => s!"Connected to {host}:{port} as {user}"
  | replacing operation => s!"Overriding diagnostics for {operation.name}"
  | closingFailed words => s!"Failed to close the admin session: {words}"
  | settingsGiven path => s!"Using explicitly specified config file: {Text.literal path}"
  | settingsInWorkingDirectory => "Found unixprov.yaml in current directory"
  | settingsOfUser path => s!"Checking XDG config path: {Text.literal path}"
  | sudoPasswordFromEnvironment => "Using sudo password from environment"
  | adminPasswordFromEnvironment => "Using admin password from environment"

/-- The part of the program that tells the event, by which a log can be narrowed down. -/
def source : Event → String
  | executing .. | transportFailed .. | printed .. => "unixprov::executor::connection"
  | targetMissing .. | failureSeen .. | confirmationMissing .. =>
    "unixprov::executor::result_types"
  | replacing _ => "unixprov::executor::diagnostics"
  | rowSkipped _ => "unixprov::parser"
  | accountsMatched _ | groupsMatched _ => "unixprov::search"
  | creating .. => "unixprov::connector::create"
  | updating .. | nothingToModify .. => "unixprov::connector::update"
  | deleting .. | nothingToDelete .. => "unixprov::connector::delete"
  | sessionTested | loginRejected .. | logoutFailed .. | authenticated _ | connected .. =>
    "unixprov::connector"
  | opening .. => "unixprov::ssh::session"
  | closingFailed _ => "unixprov"
  | settingsGiven _ | settingsInWorkingDirectory | settingsOfUser _ |
    sudoPasswordFromEnvironment | adminPasswordFromEnvironment => "unixprov::config::loader"

/-- The level and the words. -/
def line (e : Event) : String :=
  e.level.name ++ " " ++ e.message

/-- The line of the log. -/
def logLine (e : Event) : String :=
  e.level.name ++ " " ++ e.source ++ ": " ++ e.message

end Event

end HostAccounts
