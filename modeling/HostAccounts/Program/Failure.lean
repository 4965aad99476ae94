import HostAccounts.CommandLine.Expression
import HostAccounts.Dialogue

/-!
# Failures of a run

Why a run of the program ends early, and dialogues that may end so.
-/

set_option autoImplicit false

namespace HostAccounts

/-- Why a run ended early. -/
inductive Failure where
  | badExpression (defect : CommandLine.ExpressionDefect)
  | noSettings
  | unreadableSettings (path : String)
  | malformedSettings (path : String)
  /-- The variable for the sudo password is there but empty. -/
  | blankSudoVariable
  | noPassword
  | blankPassword
  | noSudoPassword
  | blankSudoPassword
  /-- An operation on the host failed. -/
  | operation (fault : Fault)
  /-- The session could not be opened. -/
  | noSession (fault : Fault)
  deriving DecidableEq, Repr

namespace Failure

/-- The variable of the environment that holds the sudo password. -/
def sudoVariable : String := "UNIXPROV_SUDO_PASSWORD"

/-- The failure in words. -/
def message : Failure → String
  | badExpression defect => defect.message
  | noSettings => "No configuration file found. Pass --config or create unixprov.yaml"
  | unreadableSettings path => s!"Failed to read configuration file at {path}. " ++
    "Please check file permissions and ensure the file is accessible."
  | malformedSettings path => s!"Failed to parse YAML configuration file at {path}"
  | blankSudoVariable => s!"{sudoVariable} is set but empty. Empty passwords are not allowed."
  | noPassword => "Failed to read password"
  | blankPassword => "Empty password not allowed"
  | noSudoPassword => "Failed to read sudo password"
  | blankSudoPassword =>
    "Empty password not allowed. Please enter a valid sudo password."
  | operation fault => fault.message
  | noSession _ => "Failed to open the admin session"

/-- The fault behind the failure. -/
def fault? : Failure → Option Fault
  | operation fault | noSession fault => some fault
  | _ => none

/-- What lies behind the failure, each in words of its own. -/
def causes : Failure → List String
  | noSession fault => fault.message :: fault.causes
  | operation fault => fault.causes
  | _ => []

/-- The text behind a lead on its first line, with the further lines below its beginning. -/
def indented (lead text : String) : String :=
  let margin := String.ofList (List.replicate lead.length ' ')
  lead ++ ("\n" ++ margin).intercalate (Text.splitOn '\n' text) ++ "\n"

/-- The causes as they are reported: only several are numbered. -/
def causeLines : List String → String
  | [] => ""
  | [cause] => "\nCaused by:\n" ++ indented "    " cause
  | causes => "\nCaused by:\n" ++
    String.join (causes.zipIdx.map fun (cause, n) => indented s!"    {n}: " cause)

/-- The report of the failure. -/
def report (f : Failure) : String :=
  "Error: " ++ f.message ++ "\n" ++ causeLines f.causes

end Failure

/-- A dialogue that may end in a failure. -/
abbrev Program (α : Type) := ExceptT Failure Dialogue α

namespace Program

/-- The program of one request that cannot fail. -/
def request (r : Request) : Program r.Answer :=
  ExceptT.lift (Dialogue.request r)

/-- Tells an event. -/
def tell (e : Event) : Program Unit :=
  request (.tell e)

/-- An operation on the host. -/
def operate {α : Type} (t : Procedure α) : Program α :=
  ExceptT.adapt Failure.operation t

/-- Goes on with what an expression says. -/
def ofExpression {α : Type} (x : Except CommandLine.ExpressionDefect α) : Program α :=
  ExceptT.mk (.done (x.mapError .badExpression))

/-- Runs the program with a peer. -/
def run {σ α : Type} (peer : Dialogue.Peer σ) (p : Program α) (s : σ) : Except Failure α × σ :=
  Dialogue.run peer (ExceptT.run p) s

end Program

end HostAccounts
