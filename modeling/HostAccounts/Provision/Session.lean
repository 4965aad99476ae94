import HostAccounts.Database.Dump
import HostAccounts.Provision.Checks
import HostAccounts.Recipe.Basic

/-!
# The session of the administrator

Commands are sent one after the other on one session. Each is judged by what it printed, and the
procedure goes on only after a success; otherwise it ends with the fault that the verdict names.
-/

set_option autoImplicit false

namespace HostAccounts

open Diagnostics (Operation Overrides Verdict)

/-! ## Faults from verdicts -/

namespace Diagnostics.Verdict

/-- The fault that a verdict amounts to. -/
def fault? (failure target output : String) : Verdict → Option Fault
  | success => none
  | notFound _ => some (.unknownTarget target)
  | failed _ | missingConfirmation _ => some (.commandFailed failure (Text.trim output))

/-- What is told of a verdict. -/
def event? (operation : Operation) (failure target output : String) : Verdict → Option Event
  | success => none
  | notFound signature => some (.targetMissing failure operation target signature)
  | failed signature => some (.failureSeen failure signature (Text.trim output))
  | missingConfirmation marker => some (.confirmationMissing failure marker)

theorem fault?_eq_none_iff {failure target output : String} {v : Verdict} :
    v.fault? failure target output = none ↔ v.isSuccess = true := by
  cases v <;> simp [fault?, isSuccess]

end Diagnostics.Verdict

namespace Session

/-- Sends a command and hands back what it printed. -/
def execute (command : RemoteCommand) (operation : Operation) : Procedure String := do
  Procedure.tell (.executing operation command.redacted)
  match ← Procedure.request (.send command operation) with
  | .ok output =>
    Procedure.tell (.printed operation output)
    return output
  | .error fault =>
    Procedure.tell (.transportFailed operation fault)
    throw (.brokenConnection fault)

/-- Tells of a verdict, and ends with the fault that it amounts to. -/
def judge (verdict : Verdict) (operation : Operation) (failure target output : String) :
    Procedure Unit := do
  if let some event := verdict.event? operation failure target output then
    Procedure.tell event
  if let some fault := verdict.fault? failure target output then
    throw fault

/-- Sends a command and goes on if it succeeded. -/
def run (d : Overrides) (command : RemoteCommand) (operation : Operation)
    (failure target : String) : Procedure String := do
  let output ← execute command operation
  judge (d.classify operation output) operation failure target output
  return output

/-- Runs the command, if there is one. -/
def runOptional (d : Overrides) (command : Option RemoteCommand) (operation : Operation)
    (failure target : String) : Procedure Unit :=
  match command with
  | some c => discard (run d c operation failure target)
  | none => pure ()

/-- Sends a command that only reads. -/
def read (d : Overrides) (command : RemoteCommand) : Procedure String :=
  run d command .read "Could not read host database" ""

/-- The rows of a dump; every line that is no row is told. -/
def rows {α : Type} (dump : Database.Dump α) : Procedure (List α) := do
  dump.faults.forM fun fault => Procedure.tell (.rowSkipped fault)
  return dump.rows

/-- Ends the session. -/
def disconnect : Procedure Unit := do
  match ← Procedure.request .disconnect with
  | .ok () => return ()
  | .error fault => throw (.brokenConnection fault)

end Session

/-! ## Access

Whether the session works, and whether the password of an account is right. The latter is tried on
a session of its own, which is ended again. -/

namespace Provision

/-- Tests the session, and the sudo password where one is needed. -/
def testSession (s : Settings) : Procedure Unit := do
  discard <| Session.run s.diagnostics (Recipe.testSession s) .test "Connection test failed" ""
  Procedure.tell .sessionTested

/-- What a login must carry. -/
def checkLogin (c : ObjectClass) (user password : String) : Except Fault Unit := do
  if c ≠ .account then throw (.unsupportedClass c.name)
  asFault (checkName "username" user)
  if password.isEmpty then throw (.invalidArgument (.blank "password"))

/-- Tries the password of an account; the result is its identifier. -/
def authenticate (c : ObjectClass) (user password : String) : Procedure String := do
  Procedure.ofExcept id (checkLogin c user password)
  match ← Procedure.request (.login user password) with
  | .error (.rejected reason) =>
    Procedure.tell (.loginRejected user reason)
    throw (.invalidCredential user)
  | .error fault => throw (.brokenConnection fault)
  | .ok () =>
    if let .error fault ← Procedure.request (.logout user) then
      Procedure.tell (.logoutFailed user fault)
    Procedure.tell (.authenticated user)
    return user

end Provision

end HostAccounts
